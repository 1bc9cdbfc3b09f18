import Mathlib.Algebra.Group.Nat.Defs
import Mathlib.Data.List.TakeWhile
import ConsentWalker.Browser.Failure
/-!
# Browser — elements named by errors

A page script that is asked about an element that is gone throws a message with the marker and the
number of the element. On its way back the message is a text among others, with a prefix before it
and lines of a stack behind it. `Names` says which element a message is about: the number behind the
first marker, as far as there are digits, if it is one of 64 bits. No part of the marker is the
start of another one, so what is put before a marker hides it only by a marker of its own
(`standsFirst_of_not_infix`).

Such a message, and nothing else that can go wrong with a call, is about an element
(`failures_told`).
-/

namespace ConsentWalker
namespace Browser

/-! ## First occurrences -/

section Occurrences

variable {needle before after text : List Char}

/-- **Where a text stands in another one first**: after a part of it, and nowhere sooner. -/
def StandsFirst (needle before after text : List Char) : Prop :=
  text = before ++ needle ++ after ∧
    ∀ sooner later, text = sooner ++ needle ++ later → before.length ≤ sooner.length

theorem StandsFirst.cons {c : Char} (hfirst : ¬ needle <+: c :: text) :
    StandsFirst needle (c :: before) after (c :: text) ↔ StandsFirst needle before after text := by
  constructor
  · rintro ⟨htext, hleast⟩
    refine ⟨List.tail_eq_of_cons_eq htext, fun sooner later h => ?_⟩
    exact Nat.le_of_succ_le_succ (hleast (c :: sooner) later (congrArg (List.cons c) h))
  · rintro ⟨rfl, hleast⟩
    refine ⟨rfl, fun sooner later h => ?_⟩
    cases sooner with
    | nil => exact absurd ⟨later, h.symm⟩ hfirst
    | cons d sooner => exact Nat.succ_le_succ (hleast sooner later (List.tail_eq_of_cons_eq h))

/-- What comes after the first occurrence of a needle is found if there is one. -/
theorem afterFirst_eq_some_iff :
    afterFirst needle text = some after ↔ ∃ before, StandsFirst needle before after text := by
  induction text with
  | nil =>
    rw [afterFirst]
    split
    · next hempty =>
      obtain rfl := List.isEmpty_iff.1 hempty
      constructor
      · rintro ⟨⟩
        exact ⟨[], rfl, fun _ _ _ => Nat.zero_le _⟩
      · rintro ⟨before, htext, -⟩
        exact congrArg some (List.append_eq_nil_iff.1 htext.symm).2.symm
    · next hempty =>
      refine iff_of_false (fun h => Option.some_ne_none _ h.symm) ?_
      rintro ⟨before, htext, -⟩
      exact hempty
        (List.isEmpty_iff.2 (List.append_eq_nil_iff.1 (List.append_eq_nil_iff.1 htext.symm).1).2)
  | cons c cs ih =>
    rw [afterFirst]
    split
    · next hfront =>
      obtain ⟨rest, hrest⟩ := List.isPrefixOf_iff_prefix.1 hfront
      rw [← hrest, List.drop_left, Option.some_inj]
      constructor
      · rintro rfl
        exact ⟨[], rfl, fun _ _ _ => Nat.zero_le _⟩
      · rintro ⟨before, htext, hleast⟩
        obtain rfl : before = [] := List.length_eq_zero_iff.1 (Nat.le_zero.1 (hleast [] rest rfl))
        exact List.append_cancel_left htext
    · next hfront =>
      have hfront' : ¬ needle <+: c :: cs := fun h => hfront (List.isPrefixOf_iff_prefix.2 h)
      rw [ih]
      constructor
      · rintro ⟨before, h⟩
        exact ⟨c :: before, (StandsFirst.cons hfront').2 h⟩
      · rintro ⟨before, h⟩
        cases before with
        | nil => exact absurd ⟨after, h.1.symm⟩ hfront'
        | cons d before =>
          obtain rfl : c = d := List.head_eq_of_cons_eq h.1
          exact ⟨before, (StandsFirst.cons hfront').1 h⟩

/-- **A text with a first letter of its own cannot overlap itself**, so it stands first after
whatever does not have it. -/
theorem standsFirst_of_not_infix {c : Char} {cs : List Char} (hc : c ∉ cs)
    (hbefore : ¬ c :: cs <:+: before) :
    StandsFirst (c :: cs) before after (before ++ c :: cs ++ after) := by
  refine ⟨rfl, fun sooner later h => Nat.le_of_not_lt fun hlt => ?_⟩
  rw [List.append_assoc, List.append_assoc] at h
  -- what stands sooner begins inside `before` and reaches beyond it
  obtain ⟨gap, hgap, hrest⟩ | ⟨gap, hgap, -⟩ := List.append_eq_append_iff.1 h.symm
  · obtain ⟨beyond, hbeyond, -⟩ | ⟨beyond, hbeyond, hcover⟩ := List.append_eq_append_iff.1 hrest
    · exact hbefore ⟨sooner, beyond, by rw [hgap, hbeyond, List.append_assoc]⟩
    · cases beyond with
      | nil => exact hbefore ⟨sooner, [], by rw [hgap, hbeyond, List.append_nil, List.append_nil]⟩
      | cons d ds =>
        obtain rfl : c = d := List.head_eq_of_cons_eq hcover
        cases gap with
        | nil => rw [hgap, List.append_nil] at hlt; exact absurd hlt (Nat.lt_irrefl _)
        | cons e gap => exact hc (by rw [List.tail_eq_of_cons_eq hbeyond]; simp)
  · rw [hgap, List.length_append] at hlt
    omega

end Occurrences

/-! ## Elements -/

section Elements

variable {message : List Char} {element : Handle}

/-- **A message names an element**: behind its first marker stands a run of digits, and what it
denotes is the number of the element, one of 64 bits. -/
def Names (message : List Char) (element : Handle) : Prop :=
  ∃ before digits after, StandsFirst staleMarker before (digits ++ after) message ∧
    digits ≠ [] ∧ (∀ c ∈ digits, c.isDigit = true) ∧ (∀ c ∈ after.head?, c.isDigit = false) ∧
    Nat.ofDigitChars 10 digits 0 = element.id ∧ element.id < 2 ^ 64

/-- A run of digits ends where no digit follows. -/
theorem takeWhile_isDigit {digits after : List Char} (hdigits : ∀ c ∈ digits, c.isDigit = true)
    (hafter : ∀ c ∈ after.head?, c.isDigit = false) :
    (digits ++ after).takeWhile Char.isDigit = digits := by
  have hnone : after.takeWhile Char.isDigit = [] := by
    cases after with
    | nil => rfl
    | cons c cs => exact List.takeWhile_cons_of_neg (Bool.eq_false_iff.1 (hafter c rfl))
  rw [List.takeWhile_append_of_pos hdigits, hnone, List.append_nil]

/-- **A message is read as the element it names.** -/
theorem staleElement?_eq_some_iff :
    staleElement? message = some element ↔ Names message element := by
  rw [staleElement?]
  constructor
  · intro h
    split at h
    · cases h
    · next rest hrest =>
      obtain ⟨before, hfirst⟩ := afterFirst_eq_some_iff.1 hrest
      dsimp only at h
      split at h
      · cases h
      · next hrun =>
        cases h
        obtain ⟨hne, hle⟩ := not_or.1 hrun
        refine ⟨before, rest.takeWhile Char.isDigit, rest.dropWhile Char.isDigit, ?_, ?_, ?_, ?_,
          rfl, ?_⟩
        · rwa [List.takeWhile_append_dropWhile]
        · exact fun hnil => hne (List.isEmpty_iff.2 hnil)
        · exact fun c => List.mem_takeWhile_imp
        · intro c hc
          have hhead := List.head?_dropWhile_not Char.isDigit rest
          rwa [hc] at hhead
        · exact Nat.lt_succ_of_le (Nat.le_of_not_lt hle)
  · rintro ⟨before, digits, after, hfirst, hne, hdigits, hafter, hnumber, hlt⟩
    rw [afterFirst_eq_some_iff.2 ⟨before, hfirst⟩]
    dsimp only
    rw [takeWhile_isDigit hdigits hafter, hnumber, if_neg]
    rintro (hnil | hle)
    · exact hne (List.isEmpty_iff.1 hnil)
    · exact absurd hlt (Nat.not_lt.2 hle)

theorem staleMarker_eq : staleMarker = "cmpilot:stale:".toList := rfl

/-- Whatever is put around it, a message names the element whose number stands behind its marker. -/
theorem names_of_marker {before after : List Char} (hbefore : ¬ staleMarker <:+: before)
    (hafter : ∀ c ∈ after.head?, c.isDigit = false) (hlt : element.id < 2 ^ 64) :
    Names (before ++ staleMarker ++ (Nat.toDigits 10 element.id ++ after)) element := by
  refine ⟨before, Nat.toDigits 10 element.id, after, ?_, Nat.toDigits_ne_nil, ?_, hafter,
    Nat.ofDigitChars_ten_toDigits, hlt⟩
  · exact standsFirst_of_not_infix (by decide) hbefore
  · exact fun c => Nat.isDigit_of_mem_toDigits (by decide) (by decide)

end Elements

/-! ## Lines -/

section Lines

variable {line text : List Char}

/-- **The first line of a text**: all of it if it has no line feed, or else what stands before that,
without a carriage return at the end. -/
def IsFirstLine (line text : List Char) : Prop :=
  '\n' ∉ line ∧ (text = line ∨ (∃ rest, text = line ++ '\r' :: '\n' :: rest) ∨
    (line.getLast? ≠ some '\r' ∧ ∃ rest, text = line ++ '\n' :: rest))

theorem takeWhile_line {front : List Char} (hfront : '\n' ∉ front) (rest : List Char) :
    (front ++ '\n' :: rest).takeWhile (· ≠ '\n') = front := by
  have hall : ∀ c ∈ front, decide (c ≠ '\n') = true :=
    fun c hc => decide_eq_true fun h => hfront (h ▸ hc)
  rw [List.takeWhile_append_of_pos hall]
  simp

theorem firstLine_of_feed {front : List Char} (hfront : '\n' ∉ front) (rest : List Char) :
    firstLine (front ++ '\n' :: rest) =
      if front.getLast? = some '\r' then front.dropLast else front := by
  rw [firstLine, takeWhile_line hfront, if_neg (by simp)]
  split
  · next h => rw [if_pos h]
  · next h => rw [if_neg h]

/-- **A text has one first line.** -/
theorem IsFirstLine.eq (h : IsFirstLine line text) : firstLine text = line := by
  obtain ⟨hline, rfl | ⟨rest, rfl⟩ | ⟨hlast, rest, rfl⟩⟩ := h
  · have hall : text.takeWhile (· ≠ '\n') = text :=
      List.takeWhile_eq_self_iff.2 fun c hc => decide_eq_true fun h => hline (h ▸ hc)
    rw [firstLine, hall, if_pos rfl]
  · have hreturn : line ++ '\r' :: '\n' :: rest = (line ++ ['\r']) ++ '\n' :: rest := by simp
    rw [hreturn, firstLine_of_feed (by simp [hline]), if_pos (by simp), List.dropLast_concat]
  · rw [firstLine_of_feed hline, if_neg hlast]

/-- The first line of a message is taken as such. -/
theorem isFirstLine_firstLine (text : List Char) : IsFirstLine (firstLine text) text := by
  obtain ⟨line, h⟩ : ∃ line, IsFirstLine line text := by
    by_cases hfeed : '\n' ∈ text
    · obtain ⟨front, rest, rfl, hfront⟩ := List.eq_append_cons_of_mem hfeed
      by_cases hlast : front.getLast? = some '\r'
      · obtain ⟨line, rfl⟩ := List.getLast?_eq_some_iff.1 hlast
        exact ⟨line, fun h => hfront (List.mem_append_left _ h), .inr (.inl ⟨rest, by simp⟩)⟩
      · exact ⟨front, hfront, .inr (.inr ⟨hlast, rest, rfl⟩)⟩
    · exact ⟨text, hfeed, .inl rfl⟩
  rwa [h.eq]

end Lines

/-! ## Errors -/

section Errors

variable {operation : String} {failure : CallFailure}

theorem classify_exception_of_names {text : String} {description : Option String} {element : Handle}
    (h : Names (description.getD text).toList element) :
    classify (.exception text description) operation = .stale element := by
  rw [classify, staleElement?_eq_some_iff.2 h]

theorem classify_exception_of_not_names {text : String} {description : Option String}
    (h : ∀ element, ¬ Names (description.getD text).toList element) :
    classify (.exception text description) operation =
      .script (operation ++ ": " ++ String.ofList (firstLine (description.getD text).toList)) := by
  have hnone : staleElement? (description.getD text).toList = none :=
    Option.eq_none_iff_forall_ne_some.2 fun element hsome =>
      h element (staleElement?_eq_some_iff.1 hsome)
  rw [classify, hnone]

/-- **What goes wrong on the way to a page** means that the page is closed or that the protocol
failed. -/
theorem classify_elsewhere (operation : String)
    (h : ∀ text description, failure ≠ .exception text description) :
    classify failure operation = .closed ∨
      ∃ message, classify failure operation = .protocol message := by
  cases failure with
  | exception text description => exact absurd rfl (h text description)
  | timeout => exact .inr ⟨_, rfl⟩
  | noResponse => exact .inl rfl
  | channelClosed => exact .inl rfl
  | other message =>
    rw [classify]
    split
    · exact .inl rfl
    · split <;> exact .inr ⟨_, rfl⟩

theorem classify_eq_stale_iff {element : Handle} :
    classify failure operation = .stale element ↔
      ∃ text description, failure = .exception text description ∧
        Names (description.getD text).toList element := by
  constructor
  · intro h
    by_cases hthrown : ∃ text description, failure = .exception text description
    · obtain ⟨text, description, rfl⟩ := hthrown
      refine ⟨text, description, rfl, ?_⟩
      by_cases hnames : ∃ e, Names (description.getD text).toList e
      · obtain ⟨e, he⟩ := hnames
        rw [classify_exception_of_names he] at h
        cases h
        exact he
      · rw [classify_exception_of_not_names fun e he => hnames ⟨e, he⟩] at h
        cases h
    · obtain hclosed | ⟨message, hprotocol⟩ :=
        classify_elsewhere operation fun text description h => hthrown ⟨text, description, h⟩
      · rw [hclosed] at h
        cases h
      · rw [hprotocol] at h
        cases h
  · rintro ⟨text, description, rfl, h⟩
    exact classify_exception_of_names h

/-- **What failed calls tell**, whatever the operation. What a page script throws about an element
comes back as that element, whatever was put around it, and nothing else is about an element than
exceptions whose messages name one. Every other exception is an error of a script and comes back
with the first line of its message; what is no exception is neither. -/
theorem failures_told (operation : String) :
    (∀ (element : Handle) (before after text : String) (description : Option String),
      element.id < 2 ^ 64 → ¬ "cmpilot:stale:".toList <:+: before.toList →
      (∀ c ∈ after.toList.head?, c.isDigit = false) →
      description.getD text = before ++ "cmpilot:stale:" ++ toString element.id ++ after →
      classify (.exception text description) operation = .stale element) ∧
    (∀ failure element, classify failure operation = .stale element ↔ ∃ text description,
      failure = .exception text description ∧ Names (description.getD text).toList element) ∧
    (∀ text description, (∀ element, ¬ Names (description.getD text).toList element) →
      ∃ line, IsFirstLine line (description.getD text).toList ∧
        classify (.exception text description) operation =
          .script (operation ++ ": " ++ String.ofList line)) ∧
    (∀ failure, (∀ text description, failure ≠ .exception text description) →
      classify failure operation = .closed ∨
        ∃ message, classify failure operation = .protocol message) := by
  refine ⟨fun element before after text description hlt hbefore hafter hmessage => ?_,
    fun _ _ => classify_eq_stale_iff, fun text description hnames => ?_,
    fun _ => classify_elsewhere operation⟩
  · have hchars : (description.getD text).toList =
        before.toList ++ staleMarker ++ (Nat.toDigits 10 element.id ++ after.toList) := by
      rw [hmessage, String.toList_append, String.toList_append, String.toList_append,
        Nat.toString_eq_ofList_toDigits, ← staleMarker_eq, String.toList_ofList, List.append_assoc]
    refine classify_exception_of_names ?_
    rw [hchars]
    exact names_of_marker hbefore hafter hlt
  · exact ⟨_, isFirstLine_firstLine _, classify_exception_of_not_names hnames⟩

/-- A number that is one too large for a handle. -/
def wideMessage : String := "Error: cmpilot:stale:18446744073709551616\r\n    at element"

/-- An element that is gone, a number that no element has, and a marker that no script has
thrown. -/
theorem click_failures_told :
    classify (.exception "Uncaught" (some "Error: cmpilot:stale:42\n    at element")) "click" =
      .stale ⟨42⟩ ∧
      (∃ line, IsFirstLine line wideMessage.toList ∧
        classify (.exception wideMessage none) "click" =
          .script ("click" ++ ": " ++ String.ofList line)) ∧
      (classify (.other "cmpilot:stale:42") "click" = .closed ∨
        ∃ message, classify (.other "cmpilot:stale:42") "click" = .protocol message) := by
  obtain ⟨hnamed, hnames, hother, helsewhere⟩ := failures_told "click"
  have hbefore : ¬ "cmpilot:stale:".toList <:+: "Error: ".toList := by decide +kernel
  have hafter : ∀ c ∈ "\n    at element".toList.head?, c.isDigit = false := by
    rintro c ⟨⟩
    rfl
  refine ⟨hnamed ⟨42⟩ "Error: " "\n    at element" _ _ (by decide) hbefore hafter
    (by decide +kernel),
    hother wideMessage none fun element h => ?_, helsewhere _ fun text description h => by cases h⟩
  have hstale := (hnames (.exception wideMessage none) element).2 ⟨_, _, rfl, h⟩
  have hscript : classify (.exception wideMessage none) "click" =
      .script "click: Error: cmpilot:stale:18446744073709551616" := by decide +kernel
  rw [hscript] at hstale
  cases hstale

end Errors
end Browser
end ConsentWalker
