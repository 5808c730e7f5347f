import FieldCalc.CommandLine.Arguments
import FieldCalc.Proofs.Text.Trimming

/-!
# Groups of arguments

The arguments of a command line are groups one after the other, up to their end, a help flag or a
group that is malformed.  There is one way to split them so (`Splits.unique`), and what is read is
what the groups before the end say: the last value of every option, all the field values in their
order (`read_groups`).
-/

namespace FieldCalc

namespace Arguments

/-! ### Groups -/

/-- The spellings of an option. -/
def Slot.flags : Slot → List String
  | .command => ["-c", "--command"]
  | .fieldValue => ["--field"]
  | .fields => ["--fields"]
  | .records => ["--records"]
  | .linked => ["--linked"]
  | .output => ["-o", "--output"]
  | .config => ["--config"]

def helpFlags : List String := ["-h", "--help"]

/-- The value of a text: of the document that it is written from, else the text. -/
def SpellsValue (raw : String) (v : Value) : Prop :=
  (∃ j, Json.read? raw = some j ∧ v = .ofJson j) ∨ Json.read? raw = none ∧ v = .text raw

/-- A field value is written as `NAME=VALUE`, with white space around its name. -/
def SpellsField (arg : String) (field : String × Value) : Prop :=
  ∃ before after raw, (∀ c ∈ before, Text.isBlank c) ∧ (∀ c ∈ after, Text.isBlank c) ∧
    Text.Trimmed field.1.toList ∧ '=' ∉ field.1.toList ∧
    arg.toList = (before ++ (field.1.toList ++ after)) ++ '=' :: raw ∧
    SpellsValue (String.ofList raw) field.2

/-- What is wrong with a text that is no field value. -/
inductive MalformedField (arg : String) : UsageError → Prop
  | noEquals : '=' ∉ arg.toList → MalformedField arg (.noEquals arg)
  | emptyName {before raw : List Char} : (∀ c ∈ before, Text.isBlank c) →
      arg.toList = before ++ '=' :: raw → MalformedField arg (.emptyName arg)

/-- Arguments that belong together. -/
inductive Group where
  | noConfig
  /-- An option with its value. -/
  | option (slot : Slot) (flag value : String)
  /-- A field value, as it is written and what it is. -/
  | field (flag arg : String) (field : String × Value)

namespace Group

def words : Group → List String
  | noConfig => ["--no-config"]
  | option _ flag value => [flag, value]
  | field flag arg _ => [flag, arg]

def WellFormed : Group → Prop
  | noConfig => True
  | option slot flag _ => slot ≠ .fieldValue ∧ flag ∈ slot.flags
  | field flag arg f => flag ∈ Slot.fieldValue.flags ∧ SpellsField arg f

/-- The value that a group gives an option. -/
def value? (slot : Slot) : Group → Option String
  | option s _ value => if s = slot then some value else none
  | _ => none

def field? : Group → Option (String × Value)
  | field _ _ f => some f
  | _ => none

end Group

/-- How the groups of some arguments end. -/
inductive Ending where
  | complete
  | help
  | malformed (e : UsageError)

/-- Whether an argument is one of the flags. -/
def IsFlag (arg : String) : Prop :=
  arg ∈ helpFlags ∨ arg = "--no-config" ∨ ∃ slot : Slot, arg ∈ slot.flags

/-- What the arguments behind the last group start with. -/
inductive Ends : List String → Ending → Prop
  | complete : Ends [] .complete
  | help {flag : String} (rest : List String) : flag ∈ helpFlags → Ends (flag :: rest) .help
  | missingValue {slot : Slot} {flag : String} : flag ∈ slot.flags →
      Ends [flag] (.malformed (.missingValue flag))
  | field {flag arg : String} {e : UsageError} (rest : List String) :
      flag ∈ Slot.fieldValue.flags → MalformedField arg e →
      Ends (flag :: arg :: rest) (.malformed e)
  | unknownOption {arg : String} (rest : List String) : ¬ IsFlag arg → arg.startsWith "-" →
      Ends (arg :: rest) (.malformed (.unknownOption arg))
  | unexpectedArgument {arg : String} (rest : List String) : ¬ IsFlag arg → ¬ arg.startsWith "-" →
      Ends (arg :: rest) (.malformed (.unexpectedArgument arg))

/-- Arguments are groups one after the other, and what ends them. -/
def Splits (args : List String) (gs : List Group) (ending : Ending) : Prop :=
  ∃ rest, args = gs.flatMap Group.words ++ rest ∧ (∀ g ∈ gs, g.WellFormed) ∧ Ends rest ending

/-- The value of an option that has one value. -/
def value? (a : Arguments) : Slot → Option String
  | .command => a.command
  | .fieldValue => none
  | .fields => a.fields
  | .records => a.records
  | .linked => a.linked
  | .output => a.output
  | .config => a.config

/-! ### Flags -/

section Flags

variable {slot : Slot} {flag arg : String}

theorem Slot.ofFlag?_eq_some_iff : Slot.ofFlag? flag = some slot ↔ flag ∈ slot.flags := by
  constructor
  · intro h
    unfold Slot.ofFlag? at h
    split at h <;> cases h <;> decide
  · revert flag
    cases slot <;> simp [Slot.flags, Slot.ofFlag?]

theorem mem_helpFlags : flag ∈ helpFlags ↔ flag = "-h" ∨ flag = "--help" := by
  simp [helpFlags]

/-- An option is neither of the flags without a value. -/
theorem Slot.ne_of_mem_flags (h : flag ∈ slot.flags) :
    ¬ (flag = "-h" ∨ flag = "--help") ∧ flag ≠ "--no-config" := by
  rw [← Slot.ofFlag?_eq_some_iff] at h
  refine ⟨?_, ?_⟩
  · rintro (rfl | rfl) <;> cases h
  · rintro rfl
    cases h

theorem not_isFlag_iff : ¬ IsFlag arg ↔
    ¬ (arg = "-h" ∨ arg = "--help") ∧ arg ≠ "--no-config" ∧ Slot.ofFlag? arg = none := by
  rw [IsFlag, not_or, not_or, mem_helpFlags, not_exists, Option.eq_none_iff_forall_ne_some]
  simp only [ne_eq, Slot.ofFlag?_eq_some_iff]

end Flags

/-! ### Field values -/

section FieldValues

variable {arg : String} {before raw : List Char} {field : String × Value} {e : UsageError}

theorem spellsValue_iff {raw : String} {v : Value} :
    SpellsValue raw v ↔ v = ((Json.read? raw).map Value.ofJson).getD (.text raw) := by
  unfold SpellsValue
  cases Json.read? raw <;> simp

theorem fieldValue_of_not_mem (h : '=' ∉ arg.toList) : fieldValue arg = .error (.noEquals arg) := by
  have hname : arg.toList.takeWhile (· != '=') = arg.toList := by
    rw [List.takeWhile_eq_self_iff]
    intro c hc
    rw [bne_iff_ne]
    exact fun he => h (he ▸ hc)
  unfold fieldValue
  dsimp only
  rw [hname, if_pos rfl]

/-- The name of a field value goes up to the first `=`. -/
theorem takeWhile_ne_equals (h : '=' ∉ before) (harg : arg.toList = before ++ '=' :: raw) :
    arg.toList.takeWhile (· != '=') = before := by
  rw [harg, List.takeWhile_append_of_pos]
  · simp
  · intro c hc
    rw [bne_iff_ne]
    exact fun he => h (he ▸ hc)

theorem fieldValue_of_blank (h : '=' ∉ before) (harg : arg.toList = before ++ '=' :: raw)
    (hblank : Text.trimChars before = []) : fieldValue arg = .error (.emptyName arg) := by
  unfold fieldValue
  dsimp only
  rw [takeWhile_ne_equals h harg, if_neg (by rw [harg]; simp), hblank]

theorem fieldValue_of_name {c : Char} {name : List Char} (h : '=' ∉ before)
    (harg : arg.toList = before ++ '=' :: raw) (hname : Text.trimChars before = c :: name) :
    fieldValue arg = .ok (String.ofList (c :: name),
      ((Json.read? (String.ofList raw)).map Value.ofJson).getD (.text (String.ofList raw))) := by
  have hraw : arg.toList.drop (before.length + 1) = raw := by
    rw [harg, List.drop_append]
    simp
  unfold fieldValue
  dsimp only
  rw [takeWhile_ne_equals h harg, hraw, if_neg (by rw [harg]; simp), hname]

theorem equals_not_mem_of_isBlank (h : ∀ c ∈ before, Text.isBlank c) : '=' ∉ before :=
  fun hc => absurd (h _ hc) (by decide)

theorem fieldValue_of_spellsField (h : SpellsField arg field) : fieldValue arg = .ok field := by
  obtain ⟨before, after, raw, hbefore, hafter, hname, hequals, harg, hv⟩ := h
  have hno : '=' ∉ before ++ (field.1.toList ++ after) := by
    simp [equals_not_mem_of_isBlank hbefore, equals_not_mem_of_isBlank hafter, hequals]
  obtain ⟨c, cs, hc⟩ := List.exists_cons_of_ne_nil hname.ne_nil
  have htrim := hname.trimChars_surrounded hbefore hafter
  rw [hc] at htrim hno harg
  rw [fieldValue_of_name hno harg htrim, ← hc, String.ofList_toList, ← spellsValue_iff.1 hv]

theorem fieldValue_of_malformedField (h : MalformedField arg e) : fieldValue arg = .error e := by
  cases h with
  | noEquals h => exact fieldValue_of_not_mem h
  | emptyName hbefore harg =>
    exact fieldValue_of_blank (equals_not_mem_of_isBlank hbefore) harg
      (Text.trimChars_eq_nil hbefore)

/-- A text is a field value or malformed. -/
theorem spellsField_or_malformedField (arg : String) :
    (∃ field, SpellsField arg field) ∨ ∃ e, MalformedField arg e := by
  by_cases hmem : '=' ∈ arg.toList
  · obtain ⟨name, raw, harg, hno⟩ := List.eq_append_cons_of_mem hmem
    rcases Text.isBlank_or_exists_trimmed name with hblank |
      ⟨before, cs, after, hbefore, hafter, hcs, rfl⟩
    · exact .inr ⟨_, .emptyName hblank harg⟩
    · simp only [List.mem_append, not_or] at hno
      refine .inl ⟨(String.ofList cs, _), before, after, raw, hbefore, hafter, ?_, ?_, ?_,
        spellsValue_iff.2 rfl⟩
      · rwa [String.toList_ofList]
      · rw [String.toList_ofList]
        exact hno.2.1
      · rwa [String.toList_ofList]
  · exact .inr ⟨_, .noEquals hmem⟩

end FieldValues

/-! ### The first group -/

/-- The first of the groups and the arguments behind it, or the end.  Arguments determine it, so no
two splittings of them differ. -/
def next : List String → Ending ⊕ Group × List String
  | [] => .inl .complete
  | flag :: rest =>
    if flag = "-h" ∨ flag = "--help" then .inl .help
    else if flag = "--no-config" then .inr (.noConfig, rest)
    else
      match Slot.ofFlag? flag with
      | none =>
        .inl (.malformed
          (if flag.startsWith "-" then .unknownOption flag else .unexpectedArgument flag))
      | some slot =>
        match rest with
        | [] => .inl (.malformed (.missingValue flag))
        | arg :: rest =>
          if slot = .fieldValue then
            match fieldValue arg with
            | .ok field => .inr (.field flag arg field, rest)
            | .error e => .inl (.malformed e)
          else .inr (.option slot flag arg, rest)

section Splitting

variable {args rest : List String} {g : Group} {gs : List Group} {ending : Ending}

theorem next_words (h : g.WellFormed) (rest : List String) :
    next (g.words ++ rest) = .inr (g, rest) := by
  cases g with
  | noConfig => rfl
  | option slot flag value =>
    obtain ⟨hslot, hflag⟩ := h
    obtain ⟨hhelp, hno⟩ := Slot.ne_of_mem_flags hflag
    simp [next, Group.words, hhelp, hno, Slot.ofFlag?_eq_some_iff.2 hflag, hslot]
  | field flag arg field =>
    obtain ⟨hflag, hfield⟩ := h
    obtain ⟨hhelp, hno⟩ := Slot.ne_of_mem_flags hflag
    simp [next, Group.words, hhelp, hno, Slot.ofFlag?_eq_some_iff.2 hflag,
      fieldValue_of_spellsField hfield]

theorem next_of_ends (h : Ends args ending) : next args = .inl ending := by
  cases h with
  | complete => rfl
  | help rest h => simp [next, mem_helpFlags.1 h]
  | missingValue h =>
    obtain ⟨hhelp, hno⟩ := Slot.ne_of_mem_flags h
    simp [next, hhelp, hno, Slot.ofFlag?_eq_some_iff.2 h]
  | field rest hflag hfield =>
    obtain ⟨hhelp, hno⟩ := Slot.ne_of_mem_flags hflag
    simp [next, hhelp, hno, Slot.ofFlag?_eq_some_iff.2 hflag, fieldValue_of_malformedField hfield]
  | unknownOption rest hflag hdash =>
    obtain ⟨hhelp, hno, hslot⟩ := not_isFlag_iff.1 hflag
    simp [next, hhelp, hno, hslot, hdash]
  | unexpectedArgument rest hflag hdash =>
    obtain ⟨hhelp, hno, hslot⟩ := not_isFlag_iff.1 hflag
    simp [next, hhelp, hno, hslot, hdash]

theorem Ends.splits (h : Ends args ending) : Splits args [] ending :=
  ⟨args, rfl, nofun, h⟩

theorem Splits.cons (hg : g.WellFormed) (h : Splits args gs ending) :
    Splits (g.words ++ args) (g :: gs) ending := by
  obtain ⟨rest, rfl, hgs, hrest⟩ := h
  exact ⟨rest, by simp, List.forall_mem_cons.2 ⟨hg, hgs⟩, hrest⟩

/-- Arguments are split in one way. -/
theorem Splits.unique {gs' : List Group} {ending' : Ending} (h : Splits args gs ending)
    (h' : Splits args gs' ending') : gs' = gs ∧ ending' = ending := by
  obtain ⟨rest, rfl, hgs, hrest⟩ := h
  obtain ⟨rest', hargs, hgs', hrest'⟩ := h'
  -- the first group of both splittings is `next`, and so is the end that both have
  induction gs generalizing gs' with
  | nil =>
    have hnext := next_of_ends hrest
    cases gs' with
    | nil =>
      obtain rfl : rest = rest' := hargs
      rw [next_of_ends hrest'] at hnext
      exact ⟨rfl, Sum.inl.inj hnext⟩
    | cons g' gs' =>
      rw [List.flatMap_nil, List.nil_append, List.flatMap_cons, List.append_assoc] at hargs
      rw [hargs, next_words (hgs' g' List.mem_cons_self)] at hnext
      cases hnext
  | cons g gs ih =>
    have hnext := next_words (hgs g List.mem_cons_self) (gs.flatMap Group.words ++ rest)
    rw [← List.append_assoc, ← List.flatMap_cons, hargs] at hnext
    cases gs' with
    | nil =>
      rw [List.flatMap_nil, List.nil_append, next_of_ends hrest'] at hnext
      cases hnext
    | cons g' gs' =>
      rw [List.flatMap_cons, List.append_assoc, next_words (hgs' g' List.mem_cons_self)] at hnext
      obtain ⟨rfl, hbehind⟩ := Prod.mk.inj (Sum.inr.inj hnext)
      obtain ⟨rfl, rfl⟩ := ih (fun x hx => hgs x (List.mem_cons_of_mem _ hx)) hbehind.symm
        fun x hx => hgs' x (List.mem_cons_of_mem _ hx)
      exact ⟨rfl, rfl⟩

end Splitting

/-! ### Reading -/

/-- Arguments after some groups: the last value of every option, further field values and a flag. -/
structure Takes (a : Arguments) (gs : List Group) (b : Arguments) : Prop where
  value? : ∀ slot, slot ≠ .fieldValue →
    b.value? slot = (gs.filterMap (Group.value? slot)).getLast?.or (a.value? slot)
  fieldValues : b.fieldValues = a.fieldValues ++ gs.filterMap Group.field?
  noConfig : b.noConfig ↔ a.noConfig ∨ .noConfig ∈ gs

/-- What is read of arguments that end so. -/
def Ending.Answers (a : Arguments) (gs : List Group) :
    Ending → Except UsageError (Option Arguments) → Prop
  | .complete, r => ∃ b, r = .ok (some b) ∧ a.Takes gs b
  | .help, r => r = .ok none
  | .malformed e, r => r = .error e

section Reading

variable {a b c : Arguments} {slot : Slot} {flag value : String} {g : Group} {gs : List Group}

theorem takes_nil (a : Arguments) : a.Takes [] a where
  value? _ _ := rfl
  fieldValues := (List.append_nil _).symm
  noConfig := by simp

theorem Takes.trans {gs' : List Group} (h : a.Takes gs b) (h' : b.Takes gs' c) :
    a.Takes (gs ++ gs') c where
  value? slot hslot := by
    rw [h'.value? slot hslot, h.value? slot hslot, List.filterMap_append, List.getLast?_append,
      Option.or_assoc]
  fieldValues := by
    rw [h'.fieldValues, h.fieldValues, List.filterMap_append, List.append_assoc]
  noConfig := by
    rw [h'.noConfig, h.noConfig, List.mem_append, or_assoc]

theorem takes_noConfig (a : Arguments) : a.Takes [.noConfig] { a with noConfig := true } where
  value? slot _ := by cases slot <;> rfl
  fieldValues := (List.append_nil _).symm
  noConfig := by simp

theorem exists_takes_option (a : Arguments) (hslot : slot ≠ .fieldValue) (flag value : String) :
    ∃ b, a.set value slot = .ok b ∧ a.Takes [.option slot flag value] b := by
  cases slot with
  | fieldValue => contradiction
  | _ =>
    refine ⟨_, rfl, fun s hs => ?_, (List.append_nil _).symm, by simp⟩
    cases s <;> rfl

theorem takes_field (a : Arguments) (arg : String) (field : String × Value) :
    a.Takes [.field flag arg field] { a with fieldValues := a.fieldValues ++ [field] } where
  value? slot _ := by cases slot <;> rfl
  fieldValues := rfl
  noConfig := by simp

/-- Where an option is set, it is of a group with its value. -/
theorem exists_group_of_set (hflag : flag ∈ slot.flags) (h : a.set value slot = .ok b) :
    ∃ g : Group, g.words = [flag, value] ∧ g.WellFormed ∧ a.Takes [g] b := by
  by_cases hslot : slot = .fieldValue
  · subst hslot
    rcases spellsField_or_malformedField value with ⟨field, hfield⟩ | ⟨e, he⟩
    · rw [set, fieldValue_of_spellsField hfield] at h
      cases h
      exact ⟨.field flag value field, rfl, ⟨hflag, hfield⟩, takes_field a value field⟩
    · rw [set, fieldValue_of_malformedField he] at h
      cases h
  · obtain ⟨b', hset, hb⟩ := exists_takes_option a hslot flag value
    obtain rfl : b = b' := Except.ok.inj (h.symm.trans hset)
    exact ⟨.option slot flag value, rfl, ⟨hslot, hflag⟩, hb⟩

/-- Where an option is not set, it is a field value that is malformed. -/
theorem ends_of_set {e : UsageError} (hflag : flag ∈ slot.flags)
    (h : a.set value slot = .error e) (rest : List String) :
    Ends (flag :: value :: rest) (.malformed e) := by
  by_cases hslot : slot = .fieldValue
  · subst hslot
    rcases spellsField_or_malformedField value with ⟨field, hfield⟩ | ⟨e', he⟩
    · rw [set, fieldValue_of_spellsField hfield] at h
      cases h
    · rw [set, fieldValue_of_malformedField he] at h
      cases h
      exact .field rest hflag he
  · obtain ⟨b, hset, -⟩ := exists_takes_option a hslot flag value
    rw [hset] at h
    cases h

theorem Ending.Answers.cons {ending : Ending} {r : Except UsageError (Option Arguments)}
    (hg : a.Takes [g] b) (h : ending.Answers b gs r) : ending.Answers a (g :: gs) r := by
  cases ending with
  | complete =>
    obtain ⟨c, hc, hgs⟩ := h
    exact ⟨c, hc, hg.trans hgs⟩
  | help => exact h
  | malformed e => exact h

/-- Arguments are split into groups, and are read as their end says. -/
theorem exists_splits (a : Arguments) (args : List String) :
    ∃ gs ending, Splits args gs ending ∧ ending.Answers a gs (a.readOnto args) := by
  fun_induction readOnto a args with
  | case1 a => exact ⟨[], .complete, Ends.complete.splits, a, rfl, takes_nil a⟩
  | case2 a flag rest h => exact ⟨[], .help, (Ends.help rest (mem_helpFlags.2 h)).splits, rfl⟩
  | case3 a rest _ ih =>
    obtain ⟨gs, ending, hs, hr⟩ := ih
    exact ⟨_, ending, hs.cons (g := .noConfig) trivial, hr.cons (takes_noConfig a)⟩
  | case4 a flag _ _ slot value rest hslot b hset ih =>
    obtain ⟨gs, ending, hs, hr⟩ := ih
    obtain ⟨g, hwords, hg, hb⟩ := exists_group_of_set (Slot.ofFlag?_eq_some_iff.1 hslot) hset
    have hsplit := hs.cons hg
    rw [hwords] at hsplit
    exact ⟨g :: gs, ending, hsplit, hr.cons hb⟩
  | case5 a flag _ _ slot value rest hslot e hset =>
    have hend := ends_of_set (Slot.ofFlag?_eq_some_iff.1 hslot) hset rest
    exact ⟨[], .malformed e, hend.splits, rfl⟩
  | case6 a flag _ _ slot hslot =>
    exact ⟨[], _, (Ends.missingValue (Slot.ofFlag?_eq_some_iff.1 hslot)).splits, rfl⟩
  | case7 a flag rest hhelp hno hslot hdash =>
    have hflag := not_isFlag_iff.2 ⟨hhelp, hno, hslot⟩
    exact ⟨[], _, (Ends.unknownOption rest hflag hdash).splits, rfl⟩
  | case8 a flag rest hhelp hno hslot hdash =>
    have hflag := not_isFlag_iff.2 ⟨hhelp, hno, hslot⟩
    exact ⟨[], _, (Ends.unexpectedArgument rest hflag hdash).splits, rfl⟩

end Reading

/-- Arguments are split in one way into groups and their end.  Where a help flag ends them, help is
asked for, and where a malformed group does, there is the usage error for it.  Else the groups are
all of the arguments, every option has the value of the last group that gives it one, and the field
values are those of the groups in their order. -/
theorem read_groups (args : List String) :
    ∃ gs ending, Splits args gs ending ∧
      (∀ gs' ending', Splits args gs' ending' → gs' = gs ∧ ending' = ending) ∧
      match ending with
      | .help => read args = .ok none
      | .malformed e => read args = .error e
      | .complete => ∃ a, read args = .ok (some a) ∧ args = gs.flatMap Group.words ∧
          (∀ slot, slot ≠ .fieldValue →
            a.value? slot = (gs.filterMap (Group.value? slot)).getLast?) ∧
          a.fieldValues = gs.filterMap Group.field? ∧ (a.noConfig ↔ .noConfig ∈ gs) := by
  obtain ⟨gs, ending, hs, hr⟩ := exists_splits {} args
  refine ⟨gs, ending, hs, fun gs' ending' => hs.unique, ?_⟩
  cases ending with
  | help => exact hr
  | malformed e => exact hr
  | complete =>
    obtain ⟨a, ha, htakes⟩ := hr
    obtain ⟨rest, hargs, -, hrest⟩ := hs
    cases hrest
    refine ⟨a, ha, by rw [hargs, List.append_nil], fun slot hslot => ?_, ?_, ?_⟩
    · rw [htakes.value? slot hslot]
      cases slot <;> exact Option.or_none
    · rw [htakes.fieldValues]
      rfl
    · rw [htakes.noConfig]
      simp

end Arguments

end FieldCalc
