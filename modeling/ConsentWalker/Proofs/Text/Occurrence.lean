import ConsentWalker.Rules.Query
/-!
# Text — occurrences and letter case

A text filter lower-cases its needle by itself and the text as a whole, and looks for the one in the
other. What a letter becomes is the same in both, but for the capital sigma, whose form depends on
what stands around it: further out, in the text, there may be letters that the needle alone does not
have (`Text.lowerBetween`).

Between letters of the needle nothing changes. A sigma at an edge of it, `Text.exposesSigma`,
becomes another one beside a letter, and then the needle is not found where it literally stands
(`TextFilter.finds_unexposed`).
-/

namespace ConsentWalker
namespace Text

/-! ## Occurrences -/

theorem occursIn_iff {needle text : List Char} :
    occursIn needle text = true ↔ needle <:+: text := by
  induction text with
  | nil =>
    rw [List.infix_nil]
    exact List.isEmpty_iff
  | cons c cs ih =>
    rw [occursIn, Bool.or_eq_true, List.isPrefixOf_iff_prefix, ih, List.infix_cons_iff]

/-! ## Sigmas further in -/

theorem meetsCased_append (cs ds : List Char) :
    meetsCased (cs ++ ds) = if cs.all isCaseIgnorable then meetsCased ds else meetsCased cs := by
  induction cs with
  | nil => rfl
  | cons c cs ih =>
    rw [List.cons_append, meetsCased, meetsCased, List.all_cons, ih]
    cases isCaseIgnorable c <;> rfl

/-- Who passes over everything meets no letter. -/
theorem meetsCased_of_all {cs : List Char} (h : cs.all isCaseIgnorable = true) :
    meetsCased cs = false := by
  have happ := meetsCased_append cs []
  rw [List.append_nil, if_pos h] at happ
  exact happ

/-- **Whether what stands further out has a say in the form of a sigma** between these: a letter
before it alone decides nothing if there may be one after it, and none before it is no answer if
there is none after it. -/
def sways (before after : List Char) : Bool :=
  (meetsCased before && after.all isCaseIgnorable) ||
    (before.all isCaseIgnorable && ! meetsCased after)

theorem lowerSigma_of_not_sways {before after : List Char} (h : sways before after = false)
    (before' after' : List Char) :
    lowerSigma (before ++ before') (after ++ after') = lowerSigma before after := by
  unfold sways at h
  have hbefore := @meetsCased_of_all before
  have hafter := @meetsCased_of_all after
  unfold lowerSigma
  rw [meetsCased_append, meetsCased_append]
  cases hb : before.all isCaseIgnorable <;> cases ha : after.all isCaseIgnorable <;>
    cases hmb : meetsCased before <;> cases hma : meetsCased after <;> simp_all

/-- Nor has it if there are no letters there. -/
theorem lowerSigma_of_apart {before' after' : List Char} (hb : meetsCased before' = false)
    (ha : meetsCased after' = false) (before after : List Char) :
    lowerSigma (before ++ before') (after ++ after') = lowerSigma before after := by
  -- where everything is passed over, there is no letter either way
  have hsame : ∀ {cs ds : List Char}, meetsCased ds = false →
      meetsCased (cs ++ ds) = meetsCased cs := by
    intro cs ds hds
    rw [meetsCased_append]
    split
    · next hall => rw [hds, meetsCased_of_all hall]
    · rfl
  unfold lowerSigma
  rw [hsame hb, hsame ha]

/-- The capital sigmas of the rest of a text, each as what stands before it, nearest first, and
after it. -/
def sigmasFrom (before : List Char) : List Char → List (List Char × List Char)
  | [] => []
  | c :: cs => (if c = 'Σ' then [(before, cs)] else []) ++ sigmasFrom (c :: before) cs

/-- **Whether a text has a capital sigma at an edge**, which may become another one beside a
letter. -/
def exposesSigma (cs : List Char) : Bool := (sigmasFrom [] cs).any fun p => sways p.1 p.2

/-! ## Lower-casing in the middle of a text -/

/-- The lower-case form of a part of a text, given what stands before it, nearest first, and after
it. -/
def lowerBetween (before : List Char) : List Char → List Char → List Char
  | [], _ => []
  | c :: cs, after =>
    (if c = 'Σ' then [lowerSigma before (cs ++ after)] else lowerChar c) ++
      lowerBetween (c :: before) cs after

theorem lowerFrom_append (before cs after : List Char) :
    lowerFrom before (cs ++ after) =
      lowerBetween before cs after ++ lowerFrom (cs.reverse ++ before) after := by
  induction cs generalizing before with
  | nil => rfl
  | cons c cs ih =>
    rw [List.cons_append, lowerFrom, lowerBetween, ih, List.reverse_cons, List.append_assoc,
      List.append_assoc, List.singleton_append]

/-- With nothing after it, it is the rest of a text. -/
theorem lowerBetween_nil (before cs : List Char) :
    lowerBetween before cs [] = lowerFrom before cs := by
  have happ := lowerFrom_append before cs []
  rw [List.append_nil, lowerFrom, List.append_nil] at happ
  exact happ.symm

/-- **A part of a text is lower-cased where it stands.** -/
theorem lowerBetween_infix (before cs after : List Char) :
    lowerBetween before.reverse cs after <:+: lower (before ++ cs ++ after) := by
  unfold lower
  rw [List.append_assoc, lowerFrom_append, lowerFrom_append, List.append_nil, ← List.append_assoc]
  exact List.infix_append _ _ _

variable {before before' after' cs : List Char}

/-- **Where no sigma changes, no letter does.** -/
theorem lowerBetween_eq {before before' cs after' : List Char} (h : ∀ p ∈ sigmasFrom before cs,
      lowerSigma (p.1 ++ before') (p.2 ++ after') = lowerSigma p.1 p.2) :
    lowerBetween (before ++ before') cs after' = lowerFrom before cs := by
  induction cs generalizing before with
  | nil => rfl
  | cons c cs ih =>
    rw [sigmasFrom, List.forall_mem_append] at h
    rw [lowerBetween, lowerFrom, ← List.cons_append, ih h.2]
    split
    · next hc =>
      rw [if_pos hc] at h
      rw [h.1 (before, cs) List.mem_cons_self]
    · rfl

/-- How often a character comes of a part of a text: from the sigmas, and from all other letters. -/
theorem count_lowerBetween (before before' cs after' : List Char) (x : Char) :
    (lowerBetween (before ++ before') cs after').count x =
      (sigmasFrom before cs).countP (fun p => lowerSigma (p.1 ++ before') (p.2 ++ after') == x) +
        ((cs.filter (· != 'Σ')).flatMap lowerChar).count x := by
  induction cs generalizing before with
  | nil => rfl
  | cons c cs ih =>
    rw [lowerBetween, sigmasFrom, List.count_append, List.countP_append, ← List.cons_append, ih,
      List.filter_cons]
    by_cases hc : c = 'Σ'
    · rw [if_pos hc, if_pos hc, if_neg (by simp [hc]), List.count_singleton, List.countP_singleton]
      exact (Nat.add_assoc _ _ _).symm
    · rw [if_neg hc, if_neg hc, if_pos (by simpa using hc), List.flatMap_cons, List.count_append,
        List.countP_nil]
      omega

/-- The same at the edge of a text. -/
theorem count_lower (x : Char) :
    (lower cs).count x = (sigmasFrom [] cs).countP (fun p => lowerSigma p.1 p.2 == x) +
      ((cs.filter (· != 'Σ')).flatMap lowerChar).count x := by
  have hcount := count_lowerBetween [] [] cs [] x
  simp only [List.append_nil] at hcount
  rw [← hcount, lowerBetween_nil]
  rfl

/-- **Where one form of the sigma is lost, and none is won, the text no longer holds what it
held.** -/
theorem count_lt_of_lost {x : Char} (h : ∀ p ∈ sigmasFrom [] cs,
      lowerSigma (p.1 ++ before') (p.2 ++ after') = x → lowerSigma p.1 p.2 = x)
    {p : List Char × List Char} (hp : p ∈ sigmasFrom [] cs) (hold : lowerSigma p.1 p.2 = x)
    (hnew : lowerSigma (p.1 ++ before') (p.2 ++ after') ≠ x) :
    (lowerBetween before' cs after').count x < (lower cs).count x := by
  have hcount := count_lowerBetween [] before' cs after' x
  rw [List.nil_append] at hcount
  rw [hcount, count_lower]
  refine Nat.add_lt_add_right ?_ _
  -- those that are such a one still are among those that were
  calc (sigmasFrom [] cs).countP (fun p => lowerSigma (p.1 ++ before') (p.2 ++ after') == x)
      = ((sigmasFrom [] cs).filter fun p => lowerSigma p.1 p.2 == x).countP
          (fun p => lowerSigma (p.1 ++ before') (p.2 ++ after') == x) := by
        rw [List.countP_filter]
        refine List.countP_congr fun q hq => ?_
        rw [Bool.and_eq_true, beq_iff_eq, beq_iff_eq]
        exact ⟨fun hx => ⟨hx, h q hq hx⟩, And.left⟩
    _ < ((sigmasFrom [] cs).filter fun p => lowerSigma p.1 p.2 == x).length := by
        refine Nat.lt_of_le_of_ne List.countP_le_length fun heq => hnew ?_
        exact beq_iff_eq.1
          (List.countP_eq_length.1 heq p (List.mem_filter.2 ⟨hp, beq_iff_eq.2 hold⟩))
    _ = _ := List.countP_eq_length_filter.symm

/-! ## Needles in a text -/

/-- A needle without a sigma at an edge is lower-cased alike wherever it stands. -/
theorem lower_infix_of_unexposed (h : exposesSigma cs = false) (before after : List Char) :
    lower cs <:+: lower (before ++ cs ++ after) := by
  unfold exposesSigma at h
  rw [List.any_eq_false] at h
  have hsame : lowerBetween ([] ++ before.reverse) cs after = lowerFrom [] cs :=
    lowerBetween_eq fun p hp => lowerSigma_of_not_sways (Bool.eq_false_iff.2 (h p hp)) _ _
  rw [List.nil_append] at hsame
  unfold lower
  rw [← hsame]
  exact lowerBetween_infix before cs after

/-- Any needle is lower-cased alike where no letters are beside it. -/
theorem lower_infix_of_apart {before after : List Char} (hb : meetsCased before.reverse = false)
    (ha : meetsCased after = false) (cs : List Char) :
    lower cs <:+: lower (before ++ cs ++ after) := by
  have hsame : lowerBetween ([] ++ before.reverse) cs after = lowerFrom [] cs :=
    lowerBetween_eq fun p _ => lowerSigma_of_apart hb ha p.1 p.2
  rw [List.nil_append] at hsame
  unfold lower
  rw [← hsame]
  exact lowerBetween_infix before cs after

/-- A letter that no sigma comes to be. -/
theorem meetsCased_letter : meetsCased ['a'] = true := by decide +kernel

/-- **A sigma at the end of a word is another one before a letter.** -/
theorem not_infix_of_final {p : List Char × List Char} (hp : p ∈ sigmasFrom [] cs)
    (hb : meetsCased p.1 = true) (ha : p.2.all isCaseIgnorable = true) :
    ¬ lower cs <:+: lower (cs ++ ['a']) := by
  intro hinfix
  have hlt : (lowerBetween [] cs ['a']).count 'ς' < (lower cs).count 'ς' := by
    refine count_lt_of_lost (fun q _ hq => ?_) hp ?_ ?_
    · rw [lowerSigma_eq, List.append_nil, meetsCased_append] at hq
      split at hq
      · rw [meetsCased_letter] at hq
        exact absurd hq.2 Bool.noConfusion
      · exact (lowerSigma_eq _ _).2 hq
    · exact (lowerSigma_eq _ _).2 ⟨hb, meetsCased_of_all ha⟩
    · rw [Ne, lowerSigma_eq, meetsCased_append p.2, if_pos ha, meetsCased_letter]
      exact fun hq => Bool.noConfusion hq.2
  have hle := hinfix.sublist.count_le 'ς'
  unfold lower at hle hlt
  rw [lowerFrom_append, List.count_append] at hle
  have hletter : (lowerFrom (cs.reverse ++ []) ['a']).count 'ς' = 0 := rfl
  omega

/-- **A sigma before which no letter stands is another one after a letter.** -/
theorem not_infix_of_first {p : List Char × List Char} (hp : p ∈ sigmasFrom [] cs)
    (hb : p.1.all isCaseIgnorable = true) (ha : meetsCased p.2 = false) :
    ¬ lower cs <:+: lower ('a' :: cs) := by
  intro hinfix
  have hsigma : ∀ b a, lowerSigma b a = 'σ' ↔ lowerSigma b a ≠ 'ς' := by
    intro b a
    unfold lowerSigma
    split <;> decide
  have hlt : (lowerBetween ['a'] cs []).count 'σ' < (lower cs).count 'σ' := by
    refine count_lt_of_lost (fun q _ hq => ?_) hp ?_ ?_
    · rw [hsigma, Ne, lowerSigma_eq, List.append_nil, meetsCased_append] at hq
      rw [hsigma, Ne, lowerSigma_eq]
      split at hq
      · next hall =>
        rw [meetsCased_of_all hall]
        exact fun h => Bool.noConfusion h.1
      · exact hq
    · rw [hsigma, Ne, lowerSigma_eq, meetsCased_of_all hb]
      exact fun h => Bool.noConfusion h.1
    · have hnew : lowerSigma (p.1 ++ ['a']) (p.2 ++ []) = 'ς' := by
        rw [lowerSigma_eq, meetsCased_append, if_pos hb, List.append_nil]
        exact ⟨meetsCased_letter, ha⟩
      rw [hnew]
      decide
  have hle := hinfix.sublist.count_le 'σ'
  unfold lower at hle hlt
  rw [lowerBetween_nil] at hlt
  rw [lowerFrom, List.count_append] at hle
  have hletter : (if ('a' : Char) = 'Σ' then [lowerSigma [] cs] else lowerChar 'a').count 'σ' = 0 :=
    rfl
  omega

end Text

/-! ## Text filters -/

namespace TextFilter

open Text

theorem accepts_iff {f : TextFilter} {text : String} :
    f.accepts text = true ↔ ∃ needle ∈ f.needles, lower needle.toList <:+: lower text.toList := by
  unfold accepts
  simp only [List.any_eq_true, occursIn_iff]

theorem one_accepts {needle text : String} :
    (TextFilter.one needle).accepts text = true ↔ lower needle.toList <:+: lower text.toList := by
  rw [accepts_iff]
  exact ⟨fun ⟨_, hn, h⟩ => List.mem_singleton.1 hn ▸ h, fun h => ⟨_, List.mem_singleton.2 rfl, h⟩⟩

/-- **A text filter finds what is literally there, but for sigmas at an edge.** A needle is found by
every filter that has it, whatever stands before and after it, exactly if none of its capital sigmas
stands at an edge. And where no letters are beside it, every needle is found. -/
theorem finds_unexposed (needle : String) :
    ((∀ (f : TextFilter) (before after : String), needle ∈ f.needles →
        f.accepts (before ++ needle ++ after) = true) ↔ exposesSigma needle.toList = false) ∧
      ∀ (f : TextFilter) (before after : String), needle ∈ f.needles →
        meetsCased before.toList.reverse = false → meetsCased after.toList = false →
          f.accepts (before ++ needle ++ after) = true := by
  refine ⟨⟨fun hfinds => ?_, fun hexposed f before after hf => ?_⟩,
    fun f before after hf hb ha => ?_⟩
  · refine Bool.eq_false_iff.2 fun hexposed => ?_
    obtain ⟨p, hp, hsways⟩ := List.any_eq_true.1 hexposed
    rcases Bool.or_eq_true_iff.1 hsways with hfinal | hfirst
    · obtain ⟨hb, ha⟩ := Bool.and_eq_true_iff.1 hfinal
      have hfound := one_accepts.1 (hfinds (.one needle) "" "a" List.mem_cons_self)
      simp only [String.toList_append] at hfound
      exact not_infix_of_final hp hb ha hfound
    · obtain ⟨hb, ha⟩ := Bool.and_eq_true_iff.1 hfirst
      have hfound := one_accepts.1 (hfinds (.one needle) "a" "" List.mem_cons_self)
      simp only [String.toList_append] at hfound
      rw [Bool.not_eq_true'] at ha
      rw [show "".toList = [] from rfl, List.append_nil] at hfound
      exact not_infix_of_first hp hb ha hfound
  · refine accepts_iff.2 ⟨needle, hf, ?_⟩
    rw [String.toList_append, String.toList_append]
    exact lower_infix_of_unexposed hexposed _ _
  · refine accepts_iff.2 ⟨needle, hf, ?_⟩
    rw [String.toList_append, String.toList_append]
    exact lower_infix_of_apart hb ha _

/-- A sigma that begins a word is not at an edge that matters; one that ends it is, and one that
stands alone. -/
example : ["ΣΥΜΦΩΝΩ", "ΡΥΘΜΙΣΕΙΣ", "Σ"].map (fun needle => exposesSigma needle.toList) =
    [false, true, true] := by
  decide +kernel

/-- **A word that ends in a sigma is not found before a letter**: settings, next to what they are
about. -/
theorem settings_missed :
    ¬ ∀ (f : TextFilter) (needle before after : String), needle ∈ f.needles →
      f.accepts (before ++ needle ++ after) = true := by
  intro hfinds
  have hfound := hfinds (.one "ΡΥΘΜΙΣΕΙΣ") "ΡΥΘΜΙΣΕΙΣ" "" "COOKIES" List.mem_cons_self
  revert hfound
  decide +kernel

end TextFilter
end ConsentWalker
