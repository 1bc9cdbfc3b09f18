import ConsentWalker.Proofs.Page.Subscribers
import ConsentWalker.Proofs.Walk.Effect
import ConsentWalker.Proofs.Walk.Unmissed
/-!
# Walk — the observers of a search

A search observes the page while it looks for dialogs and while it waits for changes, by one
observer at a time, and by none while it checks or handles a dialog. An `Account` keeps which
observers a routine was given and has not given up; `Routine.Tends` follows it through a routine
whatever is answered, and `step_tends` says it of every stage.

`Search.Works` is a search act by act: others may do anything between any two acts, but for the
observers of the search. `Works.custody` reads the account off the page at every act of every stage,
and `Task.Beside.works` finds every state of a task among them.
-/

namespace ConsentWalker

/-! ## Accounts -/

/-- The observers that were given and not given up, and those of them that were found to have
ended. -/
structure Account where
  held : List Observer := []
  ended : List Observer := []

/-- An act that neither observes, nor gives an observer up, nor asks one for changes. -/
def Act.IsAside : Act → Prop
  | .call c _ => c ≠ .observe
  | .await .. | .drop _ => False
  | _ => True

/-- The observer that an act was given. -/
def Act.given : Act → List Observer
  | .call .observe (.ok o) => [o]
  | _ => []

namespace Account

/-- The account after an act. -/
def after (acc : Account) : Act → Account
  | .call .observe (.ok o) => { acc with held := acc.held ++ [o] }
  | .drop o => { acc with held := acc.held.filter (· ≠ o) }
  | .await o none => if o ∈ acc.held then { acc with ended := o :: acc.ended } else acc
  | _ => acc

theorem after_of_isAside {a : Act} (ha : a.IsAside) (acc : Account) : acc.after a = acc := by
  cases a with
  | call c r => cases c <;> first | rfl | exact absurd rfl ha
  | await | drop => exact absurd ha id
  | note | sleep | pause | report => rfl

end Account

theorem Act.given_of_isAside {a : Act} (ha : a.IsAside) : a.given = [] := by
  cases a with
  | call c r => cases c <;> first | rfl | exact absurd rfl ha
  | await | drop => exact absurd ha id
  | note | sleep | pause | report => rfl

theorem Act.IsLook.isAside (a : Act) (ha : a.IsLook) : a.IsAside := by
  cases a with
  | call c r =>
    rintro rfl
    cases ha
  | note => trivial
  | _ => exact absurd ha id

theorem Act.IsStep.isAside (a : Act) (ha : a.IsStep) : a.IsAside := by
  rcases ha with hplain | ⟨e, r, rfl⟩
  · cases a with
    | call c r =>
      rintro rfl
      exact absurd hplain id
    | note | sleep | pause => trivial
    | _ => exact absurd hplain id
  · rintro ⟨⟩

/-! ## Routines that keep an account -/

namespace Routine

variable {α β : Type} {While : Account → Prop} {Then : α → Account → Prop} {acc : Account}
variable {t t' : Nat}

/-- **A routine tends an account**: whatever is answered, the account is as said at each of its
acts, and at its end as said of the value it comes to. -/
def Tends (While : Account → Prop) (Then : α → Account → Prop) : Routine α → Account → Prop
  | .done a, acc => Then a acc
  | .call c next, acc =>
    While acc ∧ ∀ r, (next r).Tends While Then (acc.after (.call c r))
  | .note _ next, acc | .sleep _ next, acc | .pause next, acc | .report _ next, acc =>
    While acc ∧ next.Tends While Then acc
  | .await o next, acc => While acc ∧ ∀ r, (next r).Tends While Then (acc.after (.await o r))
  | .drop o next, acc => While acc ∧ next.Tends While Then (acc.after (.drop o))

/-- After an act the rest tends the account that the act leaves. -/
theorem Tends.does {r r' : Routine α} (hr : r.Tends While Then acc) {m : Moment}
    (hd : r.Does t m t' r') : r'.Tends While Then (acc.after m.act) := by
  cases hd with
  | call _ _ _ r => exact hr.2 r
  | await _ _ _ r => exact hr.2 r
  | note | sleep | pause | report | drop => exact hr.2

/-- **Routines that tend an account, one after another.** -/
theorem Tends.bind {Between : α → Account → Prop} {Then : β → Account → Prop} {r : Routine α}
    {f : α → Routine β} (hr : r.Tends While Between acc)
    (hf : ∀ a acc, Between a acc → (f a).Tends While Then acc) :
    (r.bind f).Tends While Then acc := by
  induction r generalizing acc with
  | done a => exact hf a acc hr
  | call c next ih => exact ⟨hr.1, fun r => ih r (hr.2 r)⟩
  | note n next ih => exact ⟨hr.1, ih hr.2⟩
  | sleep d next ih => exact ⟨hr.1, ih hr.2⟩
  | pause next ih => exact ⟨hr.1, ih hr.2⟩
  | await o next ih => exact ⟨hr.1, fun r => ih r (hr.2 r)⟩
  | drop o next ih => exact ⟨hr.1, ih hr.2⟩
  | report v next ih => exact ⟨hr.1, ih hr.2⟩

/-- **Who lets observers alone leaves the account as it is.** -/
theorem Only.tends {W : Account → Prop} {r : Routine α} (hr : r.Only Act.IsAside) (hw : W acc) :
    r.Tends W (fun _ acc' => acc' = acc) acc := by
  induction r with
  | done a => rfl
  | call c next ih =>
    refine ⟨hw, fun r => ?_⟩
    rw [Account.after_of_isAside (hr r).1]
    exact ih r (hr r).2
  | note n next ih => exact ⟨hw, ih hr.2⟩
  | sleep d next ih => exact ⟨hw, ih hr.2⟩
  | pause next ih => exact ⟨hw, ih hr.2⟩
  | await o next ih => exact absurd (hr none).1 id
  | drop o next ih => exact absurd hr.1 id
  | report v next ih => exact ⟨hw, ih hr.2⟩

end Routine

/-! ## What the parts of a search do with observers -/

theorem History.aside_of_brief {h : History} (hbrief : ∀ m ∈ h, m.act.IsBrief)
    (hcalls : Call.observe ∉ h.calls) : ∀ m ∈ h, m.act.IsAside := by
  intro m hm
  have hb := hbrief m hm
  cases hact : m.act with
  | call c r =>
    rintro rfl
    exact hcalls (mem_calls.2 ⟨m, hm, by rw [hact]; rfl⟩)
  | note => trivial
  | _ =>
    rw [hact] at hb
    exact absurd hb id

/-- **A handling lets observers alone**, from its progress message to its clean-up. -/
theorem Vendor.handling_aside (s : Setting) (v : Vendor) :
    ((v.handling s).run {}).Only Act.IsAside := by
  refine Routine.only_of_course (t := 0) ?_
  rintro h t' ⟨_, w'⟩ hc
  have talk : ∀ {k : History}, k.IsTalk → ∀ m ∈ k, m.act.IsAside := fun hk =>
    History.aside_of_brief hk.isBrief (by rw [hk.calls]; exact List.not_mem_nil)
  cases hskip : s.flags.skipActions with
  | true =>
    obtain ⟨acted, w₁, t₁, h₁, h₂, hact, hclean, rfl⟩ := handling_course hc
    obtain ⟨rfl, htalk, -, -⟩ := act_skipped hskip hact
    obtain ⟨rfl, -, -, -⟩ := Acts.course_pure.1 hclean
    intro m hm
    rcases List.mem_cons.1 hm with rfl | hm
    · trivial
    · rcases List.mem_append.1 hm with hm | hm
      · exact talk htalk m hm
      · rw [List.mem_singleton.1 hm]
        trivial
  | false =>
    obtain ⟨c, hconducts, rfl, -⟩ := handling_conducts hskip hc
    have hopening : ∀ m ∈ c.opening, m.act.IsAside := by
      intro m hm
      rcases hconducts.brief.1 m hm with hbrief | hpause
      · refine History.aside_of_brief (h := [m]) (by simpa using hbrief) ?_ m (by simp)
        intro hcall
        have hin : Call.observe ∈ c.opening.calls := by
          obtain ⟨m', hm', hobserve⟩ := History.mem_calls.1 hcall
          rw [List.mem_singleton.1 hm'] at hobserve
          exact History.mem_calls.2 ⟨m, hm, hobserve⟩
        rw [hconducts.opening] at hin
        simp at hin
      · rw [hpause]
        trivial
    have hclosing : ∀ m ∈ c.closing, m.act.IsAside := by
      refine History.aside_of_brief hconducts.brief.2.2 ?_
      rw [hconducts.closing]
      simp
    intro m hm
    simp only [Conduct.history, List.mem_append, List.mem_singleton] at hm
    rcases hm with (((hm | hm) | hm) | rfl) | hm
    · exact hopening m hm
    · exact (hconducts.brief.2.1 m hm).isAside
    · exact talk hconducts.complaint m hm
    · trivial
    · exact hclosing m hm

namespace Search

/-! ## Stages -/

/-- **The account of a stage**: one observer while the search looks or waits, none while it checks
or handles a dialog, and none or one that has ended when it is finished. -/
def State.Subscribed (s : State) (acc : Account) : Prop :=
  match s.stage with
  | .detecting | .observing => ∃ o, s.observer = some o ∧ acc.held = [o]
  | .polling _ | .abandoned _ | .handling _ | .handled _ => s.observer = none ∧ acc.held = []
  | .finished => s.observer = none ∧ acc.held = [] ∨
      ∃ o, s.observer = some o ∧ acc.held = [o] ∧ o ∈ acc.ended

/-- The account at the end of a stage: that of the next, or no observer at all. -/
def Next.Settles : Next → Account → Prop
  | .goOn s, acc => s.Subscribed acc
  | .stop _, acc => acc.held = []

variable {x : Search} {s s' : State} {acc : Account} {While : Account → Prop}

/-- **Looking again** takes an observer, or stops the search without one. -/
theorem look_tends (hw : While acc) (hnone : acc.held = []) :
    (look s).Tends While Next.Settles acc := by
  refine ⟨hw, fun r => ?_⟩
  cases r with
  | error e => exact hnone
  | ok o =>
    refine ⟨o, rfl, ?_⟩
    change acc.held ++ [o] = [o]
    rw [hnone, List.nil_append]

/-- Giving up the observer that is held leaves none. -/
theorem stopObserving_tends {o : Observer} (hw : While acc) (hone : acc.held = [o]) :
    (stopObserving (some o)).Tends While (fun _ acc' => acc'.held = []) acc := by
  refine ⟨hw, ?_⟩
  change acc.held.filter (· ≠ o) = []
  rw [hone]
  simp

/-- **Every stage tends its account**: it begins with the account of the stage, keeps it as long as
it has anything to do, and ends with that of the next. -/
theorem step_tends (x : Search) (hs : s.Subscribed acc) :
    (x.step s).Tends s.Subscribed Next.Settles acc := by
  obtain ⟨stage, tried, handled, observer⟩ := s
  refine ⟨hs, ?_⟩
  cases stage with
  | detecting =>
    obtain ⟨o, rfl, hone⟩ := hs
    have hpass := (x.nextCandidate_looks tried).mono Act.IsLook.isAside
    refine (hpass.tends (W := State.Subscribed ⟨.detecting, tried, handled, some o⟩)
      ⟨o, rfl, hone⟩).bind ?_
    rintro found acc' rfl
    cases found with
    | none => exact ⟨o, rfl, hone⟩
    | some c =>
      refine (stopObserving_tends ⟨o, rfl, hone⟩ hone).bind fun _ acc' hnone => ?_
      exact ⟨rfl, hnone⟩
  | observing =>
    obtain ⟨o, rfl, hone⟩ := hs
    refine ⟨⟨o, rfl, hone⟩, fun r => ?_⟩
    cases r with
    | none =>
      refine .inr ⟨o, rfl, ?_⟩
      have hheld : o ∈ acc.held := by
        rw [hone]
        exact List.mem_singleton.2 rfl
      change Account.held (if o ∈ acc.held then _ else _) = [o] ∧
        o ∈ Account.ended (if o ∈ acc.held then _ else _)
      rw [if_pos hheld]
      exact ⟨hone, List.mem_cons_self⟩
    | some records => exact ⟨⟨o, rfl, hone⟩, o, rfl, hone⟩
  | polling i =>
    obtain ⟨rfl, hnone⟩ := hs
    dsimp only [Routine.bind]
    cases x.vendors[i]? with
    | none => exact .inl ⟨rfl, hnone⟩
    | some v =>
      have hpoll :=
        poll_only Act.IsLook.isAside (fun _ => trivial) x v x.setting.pace.pollAttempts 1
      refine (hpoll.tends (W := State.Subscribed ⟨.polling i, tried, handled, none⟩)
        ⟨rfl, hnone⟩).bind ?_
      rintro shown acc' rfl
      cases shown with
      | true => exact ⟨rfl, hnone⟩
      | false => exact ⟨rfl, hnone⟩
  | abandoned i =>
    obtain ⟨rfl, hnone⟩ := hs
    exact ⟨⟨rfl, hnone⟩, look_tends ⟨rfl, hnone⟩ hnone⟩
  | handling i =>
    obtain ⟨rfl, hnone⟩ := hs
    dsimp only [Routine.bind]
    cases x.vendors[i]? with
    | none => exact .inl ⟨rfl, hnone⟩
    | some v =>
      refine ((v.handling_aside x.setting).tends
        (W := State.Subscribed ⟨.handling i, tried, handled, none⟩) ⟨rfl, hnone⟩).bind ?_
      rintro _ acc' rfl
      exact ⟨rfl, hnone⟩
  | handled i =>
    obtain ⟨rfl, hnone⟩ := hs
    refine ⟨⟨rfl, hnone⟩, ?_⟩
    change Routine.Tends _ _ (if x.setting.pace.keepObserving then _ else _) acc
    split
    · exact look_tends ⟨rfl, hnone⟩ hnone
    · exact .inl ⟨rfl, hnone⟩
  | finished =>
    rcases hs with ⟨rfl, hnone⟩ | ⟨o, rfl, hone, hended⟩
    · exact hnone
    · refine (stopObserving_tends (.inr ⟨o, rfl, hone, hended⟩) hone).bind ?_
      exact fun _ acc' hnone => hnone

end Search

/-! ## A search act by act -/

/-- An act in a world. A wait makes nothing of it by itself. -/
inductive World.Allows (w : World) : Act → World → Prop where
  | makes {a : Act} {w' : World} : w.Makes a w' → Allows w a w'
  | sleeps (time : Nat) : Allows w (.sleep time) w
  | pauses : Allows w .pause w

namespace Search

/-- **A search at work**, act by act: the stage it is in, if it has come to one, what is left of
that stage, and the observers that the page gave to it. Others may act between any two acts. -/
inductive Works (x : Search) (w₀ : World) :
    Option State → Routine Next → World → List Observer → Prop where
  | begin : Works x w₀ none start w₀ []
  | act {at? : Option State} {r r' : Routine Next} {m : Moment} {t t' : Nat} {w w' : World}
      {own : List Observer} : Works x w₀ at? r w own → r.Does t m t' r' → w.Allows m.act w' →
        Works x w₀ at? r' w' (own ++ m.act.given)
  | turn {at? : Option State} {s : State} {w : World} {own : List Observer} :
      Works x w₀ at? (.done (.goOn s)) w own →
        Works x w₀ (some s) (x.step s) { w with tried := s.tried } own
  | others {at? : Option State} {r : Routine Next} {w w' : World} {own : List Observer} :
      Works x w₀ at? r w own → w.page.Shared own w'.page → Works x w₀ at? r w' own

end Search

/-- **An account fits a page**: what is held are the owner's observers that the page has not been
told to give up. -/
structure Account.Fits (acc : Account) (own : List Observer) (p : Page) : Prop where
  known : ∀ o ∈ own, o.index < p.mailboxes.length
  held : acc.held = p.held own
  ended : ∀ o ∈ acc.ended, o ∈ own ∧ p.HasEnded o

namespace Account.Fits

variable {acc : Account} {own : List Observer} {p p' : Page} {w w' : World}

/-- What spares the observers leaves the account fitting. -/
theorem spares (h : acc.Fits own p) (hs : Page.Spares own p p') : acc.Fits own p' where
  known o ho := Nat.lt_of_lt_of_le (h.known o ho) hs.length
  held := h.held.trans hs.held_eq.symm
  ended o ho := ⟨(h.ended o ho).1, hs.ended o (h.ended o ho).1 (h.ended o ho).2⟩

/-- Who observes and enters the new observer in the account leaves it fitting. -/
theorem observe (h : acc.Fits own p) :
    ({ acc with held := acc.held ++ [⟨p.mailboxes.length⟩] } : Account).Fits
      (own ++ [⟨p.mailboxes.length⟩]) (p.perform .observe).2 := by
  have hs : Page.Spares own p (p.perform .observe).2 := .of_append h.known rfl
  have hnew : (p.perform .observe).2.mailbox ⟨p.mailboxes.length⟩ =
      { connected := ! p.closed } := by
    change ((p.mailboxes ++ [_])[p.mailboxes.length]?).getD _ = _
    rw [List.getElem?_concat_length]
    rfl
  refine ⟨fun o ho => ?_, ?_, fun o ho => ?_⟩
  · change o.index < (p.mailboxes ++ [_]).length
    rw [List.length_append, List.length_singleton]
    rcases List.mem_append.1 ho with ho | ho
    · exact Nat.lt_succ_of_lt (h.known o ho)
    · rw [List.mem_singleton.1 ho]
      exact Nat.lt_succ_self _
  · have hold := hs.held_eq
    unfold Page.held at *
    rw [List.filter_append, hold, h.held, List.filter_singleton, hnew]
    rfl
  · obtain ⟨hown, hend⟩ := h.ended o ho
    exact ⟨List.mem_append_left _ hown, hs.ended o hown hend⟩

/-- Who gives an observer up and strikes it off leaves the account fitting. -/
theorem drop (h : acc.Fits own p) (o : Observer) :
    ({ acc with held := acc.held.filter (· ≠ o) } : Account).Fits own (p.drop o) := by
  have hbox : ∀ o' ∈ own, (p.drop o).mailbox o' =
      if o' = o then { p.mailbox o with queue := [], dropped := true } else p.mailbox o' := by
    intro o' ho'
    unfold Page.drop
    by_cases hsame : o' = o
    · subst hsame
      rw [if_pos rfl, Page.mailbox_updateMailbox_self (h.known o' ho')]
    · rw [if_neg hsame, Page.mailbox_updateMailbox_of_ne hsame]
  refine ⟨fun o' ho' => ?_, ?_, fun o' ho' => ?_⟩
  · have hlength : (p.drop o).mailboxes.length = p.mailboxes.length := List.length_modify ..
    rw [hlength]
    exact h.known o' ho'
  · unfold Page.held
    rw [h.held]
    unfold Page.held
    rw [List.filter_filter]
    refine List.filter_congr fun o' ho' => ?_
    rw [hbox o' ho']
    by_cases hsame : o' = o
    · simp [hsame]
    · simp [hsame]
  · obtain ⟨hown, hend⟩ := h.ended o' ho'
    refine ⟨hown, ?_⟩
    unfold Page.HasEnded at *
    rw [hbox o' hown]
    by_cases hsame : o' = o
    · subst hsame
      rw [if_pos rfl]
      exact ⟨hend.1, rfl⟩
    · rw [if_neg hsame]
      exact hend

/-- Who fetches what was told, and notes the end of the changes, leaves the account fitting. -/
theorem collect (h : acc.Fits own w.page) {o : Observer} {records : Option Nat}
    (hc : w.collect? o = some (records, w')) :
    (acc.after (.await o records)).Fits own w'.page := by
  have hfetched : acc.Fits own w'.page := by
    rcases World.collect?_cases hc with rfl | rfl
    · exact h
    · exact h.spares (.of_drain h.known o)
  cases records with
  | some records => exact hfetched
  | none =>
    change Account.Fits (if o ∈ acc.held then _ else acc) own w'.page
    split
    · next hheld =>
      refine ⟨hfetched.known, hfetched.held, fun o' ho' => ?_⟩
      rcases List.mem_cons.1 ho' with rfl | ho'
      · -- who holds an observer and is told of no more changes finds the channel ended
        rw [h.held] at hheld
        obtain ⟨hown, hkept⟩ := List.mem_filter.1 hheld
        have hkept' : (w.page.mailbox o').dropped = false := by simpa using hkept
        refine ⟨hown, ?_⟩
        by_cases hq : (w.page.mailbox o').queue = []
        · rw [World.collect?_empty hq] at hc
          split at hc
          · cases hc
          · next hdead =>
            cases hc
            refine ⟨?_, hq⟩
            unfold Mailbox.isLive at hdead
            rw [hkept'] at hdead
            simpa using hdead
        · rw [World.collect?_batches hkept' hq] at hc
          cases hc
      · exact hfetched.ended o' ho'
    · exact hfetched

/-- **An act changes what is held as it changes the account.** -/
theorem act (h : acc.Fits own w.page) {a : Act} (ha : w.Allows a w') :
    (acc.after a).Fits (own ++ a.given) w'.page := by
  have aside : ∀ {a : Act} {p : Page}, a.IsAside → Page.Spares own w.page p →
      (acc.after a).Fits (own ++ a.given) p := by
    intro a p haside hs
    rw [after_of_isAside haside, Act.given_of_isAside haside, List.append_nil]
    exact h.spares hs
  have same : own ++ [] = own := List.append_nil own
  cases ha with
  | sleeps | pauses => exact aside trivial (.of_mailboxes_eq rfl)
  | makes hm =>
    cases hm with
    | note | rest | report => exact aside trivial (.of_mailboxes_eq rfl)
    | drop o =>
      change Account.Fits _ (own ++ []) _
      rw [same]
      exact h.drop o
    | collect hc =>
      change Account.Fits _ (own ++ []) _
      rw [same]
      exact h.collect hc
    | call c =>
      rcases w.perform_or c with ⟨e, faults, hfailed⟩ | ⟨faults, hdone⟩
      · rw [hfailed]
        by_cases hc : c = .observe
        · subst hc
          change Account.Fits _ (own ++ []) _
          rw [same]
          exact h
        · exact aside hc (.of_mailboxes_eq rfl)
      · rw [hdone]
        by_cases hc : c = .observe
        · subst hc
          exact h.observe
        · exact aside hc (Page.perform_spares hc _)

end Account.Fits

namespace Search

variable {x : Search} {w₀ w : World} {at? : Option State} {s : State} {r : Routine Next}
variable {own : List Observer}

/-- The account while a search is in a stage, or before the first. -/
def Within : Option State → Account → Prop
  | none, acc => acc.held = []
  | some s, acc => s.Subscribed acc

/-- **Wherever a search stands it tends an account that fits the page.** -/
theorem Works.account (h : Works x w₀ at? r w own) :
    ∃ acc : Account, acc.Fits own w.page ∧ r.Tends (Within at?) Next.Settles acc := by
  induction h with
  | begin => exact ⟨{}, ⟨by simp, rfl, by simp⟩, look_tends rfl rfl⟩
  | act _ hd ha ih =>
    obtain ⟨acc, hfits, htends⟩ := ih
    exact ⟨acc.after _, hfits.act ha, htends.does hd⟩
  | @turn _ s _ _ _ ih =>
    obtain ⟨acc, hfits, hsettles⟩ := ih
    exact ⟨acc, hfits, step_tends x hsettles⟩
  | others _ hs ih =>
    obtain ⟨acc, hfits, htends⟩ := ih
    exact ⟨acc, hfits.spares (hs.spares hfits.known), htends⟩

/-- **The observers of a search in a stage**, on its page. -/
def State.Custody (s : State) (own : List Observer) (p : Page) : Prop :=
  match s.stage with
  | .detecting | .observing => ∃ o, s.observer = some o ∧ p.held own = [o] ∧
      p.observerCount = p.strangers own + if (p.mailbox o).connected then 1 else 0
  | .polling _ | .abandoned _ | .handling _ | .handled _ =>
      s.observer = none ∧ p.held own = [] ∧ p.observerCount = p.strangers own
  | .finished => s.observer = none ∧ p.held own = [] ∨
      ∃ o, s.observer = some o ∧ p.held own = [o] ∧ p.HasEnded o

theorem State.Subscribed.held_by_stage {acc : Account} {p : Page} (hs : s.Subscribed acc)
    (hfits : acc.Fits own p) : s.Custody own p := by
  unfold State.Subscribed at hs
  unfold State.Custody
  rw [hfits.held] at hs
  cases hstage : s.stage with
  | detecting | observing =>
    rw [hstage] at hs
    obtain ⟨o, hobserver, hone⟩ := hs
    exact ⟨o, hobserver, hone, Page.observerCount_of_held_one hfits.known hone⟩
  | polling | abandoned | handling | handled =>
    rw [hstage] at hs
    exact ⟨hs.1, hs.2, Page.observerCount_of_held_nil hs.2⟩
  | finished =>
    rw [hstage] at hs
    rcases hs with hnone | ⟨o, hobserver, hone, hended⟩
    · exact .inl hnone
    · exact .inr ⟨o, hobserver, hone, (hfits.ended o hended).2⟩

/-- A routine that has something left to do holds what it says of its acts. -/
theorem tends_while {α : Type} {While : Account → Prop} {Then : α → Account → Prop} {acc : Account}
    {r : Routine α} (hr : r.Tends While Then acc) (hleft : ∀ a, r ≠ .done a) : While acc := by
  cases r with
  | done a => exact absurd rfl (hleft a)
  | _ => exact hr.1

end Search

/-! ## Tasks -/

/-- What a routine comes to or has left to do where it stands. -/
def Halt.Left {α : Type} (P : Routine α → Prop) : Halt α → Prop
  | .finished a => P (.done a)
  | .sleeping _ next | .paused next => P next
  | .waiting o next => P (.await o next)

theorem Halt.Left.imp {α : Type} {P Q : Routine α → Prop} {halt : Halt α} (h : halt.Left P)
    (hPQ : ∀ r, P r → Q r) : halt.Left Q := by
  cases halt <;> exact hPQ _ h

/-- **Running on is work**, act by act. -/
theorem World.go_works {x : Search} {w₀ : World} {at? : Option Search.State}
    {r : Routine Search.Next} {w : World} {own : List Observer}
    (h : Search.Works x w₀ at? r w own) :
    ∃ own', (w.go r).1.Left fun next => Search.Works x w₀ at? next (w.go r).2 own' := by
  induction r generalizing w own with
  | done a => exact ⟨own, h⟩
  | call c next ih => exact ih _ (h.act (.call c next 0 _) (.makes (.call c)))
  | note n next ih => exact ih (h.act (.note n next 0) (.makes (.note n)))
  | sleep d next ih =>
    have hslept := h.act (.sleep d next 0) (.sleeps d)
    cases d with
    | zero => exact ih hslept
    | succ d => exact ⟨_, hslept⟩
  | pause next ih => exact ⟨_, h.act (.pause next 0) .pauses⟩
  | await o next ih =>
    cases hc : w.collect? o with
    | none =>
      rw [World.go_await_none hc]
      exact ⟨own, h⟩
    | some p =>
      obtain ⟨records, w₁⟩ := p
      rw [World.go_await_some hc]
      exact ih records (h.act (.await o next (Nat.le_refl 0) records) (.makes (.collect hc)))
  | drop o next ih => exact ih (h.act (.drop o next 0) (.makes (.drop o)))
  | report v next ih => exact ih (h.act (.report v next 0) (.makes (.report v)))

namespace Task

variable {x : Search} {Others : World → World → Prop} {w₀ w w' : World} {t : Task}
variable {r : Routine Search.Next} {own : List Observer}

/-- **A task at work**: what is left of its stage, or of its start. -/
structure AtWork (x : Search) (w₀ : World) (t : Task) (w : World) (own : List Observer) : Prop where
  search : t.search = x
  works : ∃ at?, (at? = some t.state ∨ at? = none ∧ t.state = {}) ∧
    t.halt.Left fun next => Search.Works x w₀ at? next w own

theorem AtWork.follow {at? : Option Search.State} (stages : Nat) (hx : t.search = x)
    (hat : at? = some t.state ∨ at? = none ∧ t.state = {}) (h : Search.Works x w₀ at? r w own) :
    ∃ own', AtWork x w₀ (t.follow stages r w).1 (t.follow stages r w).2 own' := by
  induction stages generalizing t at? r w own with
  | zero => exact ⟨own, hx, at?, hat, h⟩
  | succ stages ih =>
    obtain ⟨own', hleft⟩ := World.go_works h
    unfold Task.follow
    rcases hgo : w.go r with ⟨halt, w₁⟩
    rw [hgo] at hleft
    dsimp only at hleft
    cases halt with
    | finished a =>
      cases a with
      | stop outcome => exact ⟨own', hx, at?, hat, hleft⟩
      | goOn s =>
        have hnext : Search.Works x w₀ (some s) (t.search.step s)
            { w₁ with tried := s.tried } own' := by
          rw [hx]
          exact hleft.turn
        exact ih (t := { t with state := s }) hx (.inl rfl) hnext
    | sleeping | paused | waiting => exact ⟨own', hx, at?, hat, hleft⟩

/-- **Every state of a task among others is one of a search at work**, as long as they leave its
observers to it. -/
theorem Beside.works (hothers : ∀ own w w', Others w w' → w.page.Shared own w'.page)
    (hb : Beside x Others w₀ t w) : ∃ own, AtWork x w₀ t w own := by
  induction hb with
  | new => exact ⟨[], rfl, none, .inr ⟨rfl, rfl⟩, .begin⟩
  | @act t w w' r stages _ hr ih =>
    obtain ⟨own, hx, at?, hat, hleft⟩ := ih
    have hwork : ∃ own, Search.Works x w₀ at? r w' own := by
      unfold Task.ready? at hr
      split at hr
      · cases hr
      · generalize t.halt = halt at hleft hr
        cases halt with
        | finished a => cases hr
        | sleeping time next =>
          dsimp only at hr
          split at hr
          · cases hr
            exact ⟨own, hleft⟩
          · cases hr
        | paused next =>
          cases hr
          exact ⟨own, hleft⟩
        | waiting o next =>
          obtain ⟨⟨records, w₁⟩, hcollect, hnext⟩ := Option.map_eq_some_iff.1 hr
          cases hnext
          exact ⟨_, hleft.act (.await o next (Nat.le_refl 0) records) (.makes (.collect hcollect))⟩
    obtain ⟨own', hwork⟩ := hwork
    exact AtWork.follow stages hx hat hwork
  | @change t w w' _ ho _ ih =>
    obtain ⟨own, hx, at?, hat, hleft⟩ := ih
    exact ⟨own, hx, at?, hat, hleft.imp fun _ h => h.others (hothers own _ _ ho)⟩
  | pass time _ _ _ ih =>
    obtain ⟨own, hx, at?, hat, hleft⟩ := ih
    exact ⟨own, hx, at?, hat, hleft.imp fun _ h => h.others .rest⟩

end Task

/-! ## Custody -/

namespace Search

variable {x : Search} {w₀ w : World} {at? : Option State} {r : Routine Next} {own : List Observer}

/-- **The custody of observers.** At every act of every stage a search holds exactly one observer
while it looks for dialogs or waits for changes, none while it checks, gives up, handles or has
handled one, and once it is finished none or one whose channel has ended. When it returns it holds
none, and the page counts the observers of others. -/
theorem Works.custody (h : Works x w₀ at? r w own) :
    (∀ s, at? = some s → (∀ n, r ≠ .done n) → s.Custody own w.page) ∧
      ∀ outcome, r = .done (.stop outcome) →
        w.page.held own = [] ∧ w.page.observerCount = w.page.strangers own := by
  obtain ⟨acc, hfits, htends⟩ := h.account
  refine ⟨?_, ?_⟩
  · rintro s rfl hleft
    exact State.Subscribed.held_by_stage (tends_while htends hleft) hfits
  · rintro outcome rfl
    have hnone : w.page.held own = [] := hfits.held.symm.trans htends
    exact ⟨hnone, Page.observerCount_of_held_nil hnone⟩

/-- A search without vendors is an observer more than there are others while it looks, and none once
the page was closed and it returned. -/
theorem sample_custody :
    (∃ w own,
      Works {} Task.bare (some { observer := some ⟨0⟩ }) (step {} { observer := some ⟨0⟩ }) w own ∧
      w.page.observerCount = w.page.strangers own + 1) ∧
    ∃ at? w own, Works {} Task.bare at? (.done (.stop (.ok {}))) w own ∧
      w.page.observerCount = w.page.strangers own := by
  let s : State := { observer := some ⟨0⟩ }
  let w₁ : World := (Task.bare.perform .observe).2
  have hstart : Works {} Task.bare none (.done (.goOn s)) w₁ [⟨0⟩] :=
    .act (r := start) .begin (.call .observe _ 0 (.ok ⟨0⟩)) (.makes (.call .observe))
  have hlook := hstart.turn
  refine ⟨⟨_, _, hlook, ?_⟩, ?_⟩
  · obtain ⟨o, ho, -, hcount⟩ := hlook.custody.1 _ rfl nofun
    cases ho
    exact hcount
  · let s₂ : State := { s with stage := .observing }
    have hpass : Works {} Task.bare (some s) (.done (.goOn s₂)) (w₁.tell (.stage .detecting))
        [⟨0⟩] :=
      .act (r := step {} s) hlook (.note _ _ 0) (.makes (.note _))
    have hwait := Works.act (r := step {} s₂) hpass.turn (.note _ _ 0) (.makes (.note _))
    let w₂ : World := (w₁.tell (.stage .detecting)).tell (.stage .observing)
    let w₃ : World := { w₂ with page := (w₂.page.perform .close).2 }
    have hclosed : Works {} Task.bare (some s₂) (.await ⟨0⟩ (wake s₂)) w₃ [⟨0⟩] :=
      hwait.others (.perform .close)
    let s₃ : State := { s with stage := .finished }
    have hended : Works {} Task.bare (some s₂) (.done (.goOn s₃)) w₃ [⟨0⟩] :=
      hclosed.act (.await ⟨0⟩ _ (Nat.le_refl 0) none) (.makes (.collect rfl))
    have hfinish := Works.act (r := step {} s₃) hended.turn (.note _ _ 0) (.makes (.note _))
    have hover : Works {} Task.bare (some s₃) (.done (.stop (.ok {}))) _ _ :=
      hfinish.act (.drop ⟨0⟩ _ 0) (.makes (.drop ⟨0⟩))
    exact ⟨_, _, _, hover, (hover.custody.2 _ rfl).2⟩

end Search

end ConsentWalker
