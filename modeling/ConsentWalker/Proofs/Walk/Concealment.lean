import ConsentWalker.Proofs.Walk.Stepping
/-!
# Walk — what is hidden is noted

A walker notes every element before it asks the page to hide it. So whatever a method does, and
wherever it fails, the elements noted are those that were noted before and those the page was asked
to hide meanwhile, in order (`runMethod_noted`): the account a clean-up relies on is never short of
one, not even of one the page failed to hide.
-/

namespace ConsentWalker

/-- The element a call asks to hide. -/
def Call.hide? : Call → Option Handle
  | .setHidden h true => some h
  | _ => none

/-- The elements the page was asked to hide, in order. -/
def History.hides (h : History) : List Handle := h.calls.filterMap Call.hide?

namespace History

@[simp] theorem hides_nil : hides [] = [] := rfl

@[simp] theorem hides_append (h h' : History) : hides (h ++ h') = hides h ++ hides h' := by
  simp [hides]

/-- Plain acts hide nothing. -/
theorem hides_eq_nil {h : History} (hh : ∀ m ∈ h, m.act.IsPlain) : h.hides = [] := by
  unfold hides
  rw [List.filterMap_eq_nil_iff]
  intro c hc
  obtain ⟨m, hm, hmc⟩ := mem_calls.1 hc
  obtain ⟨r, hact⟩ := Act.eq_call_of_call? hmc
  have hplain := hh m hm
  rw [hact] at hplain
  cases c with
  | setHidden => exact absurd hplain id
  | _ => rfl

end History

/-- An act that steps do: a plain one, or a hide. -/
def Act.IsStep (a : Act) : Prop := a.IsPlain ∨ ∃ e r, a = .call (.setHidden e true) r

/-- **The elements noted grow by those that were to be hidden**, and nothing is done but steps. -/
structure Noted (w : Walker) (h : History) (w' : Walker) : Prop where
  concealed : w'.concealed = w.concealed ++ h.hides
  steps : ∀ m ∈ h, m.act.IsStep

theorem kept_noted : Steps.Kept Noted where
  refl w := ⟨by simp, by simp⟩
  trans h₁ h₂ := by
    refine ⟨?_, fun m hm => ?_⟩
    · rw [h₂.concealed, h₁.concealed, History.hides_append, List.append_assoc]
    · rcases List.mem_append.1 hm with hm | hm
      · exact h₁.steps m hm
      · exact h₂.steps m hm
  direct w h hh := by
    have hplain := fun m hm => (hh m hm).isPlain
    refine ⟨?_, fun m hm => .inl (hplain m hm)⟩
    rw [History.hides_eq_nil hplain, List.append_nil]
  hide w t e r := by
    refine ⟨rfl, fun m hm => ?_⟩
    rw [List.mem_singleton.1 hm]
    exact .inr ⟨e, r, rfl⟩
  within e h := ⟨h.concealed, h.steps⟩

/-- A pause hides nothing. -/
theorem noted_pause (w : Walker) (t : Nat) : Noted w [⟨t, .pause⟩] w where
  concealed := (List.append_nil _).symm
  steps m hm := by
    rw [List.mem_singleton.1 hm]
    exact .inl trivial

/-- **A method notes what it hides**, wherever in its steps the hiding is done and whatever
fails. -/
theorem Vendor.runMethod_noted (s : Setting) (v : Vendor) (m : Method) :
    Steps.Ensures Noted (v.runMethod s m) :=
  v.runMethod_ensures kept_noted noted_pause s m

end ConsentWalker
