import ConsentWalker.Proofs.Walk.Alone
import ConsentWalker.Proofs.Walk.TwinWorlds
import ConsentWalker.Walk.Task
/-!
# Walk — vendors that are never found

A search may know some vendors more than another one (`Search.Adds`). As long as their dialogs are
not found they make no difference: in every pass they are asked and passed over, which gives out
handles and does nothing else (`candidates_twins`), and in all other stages the two searches do the
same but for the positions of vendors (`step_twin`).
-/

namespace ConsentWalker

/-! ## Positions -/

/-- A position among vendors after some more were put in at another one. -/
def Search.shift (n more i : Nat) : Nat := if i < n then i else i + more

open Search (shift)

/-- A stage after some vendors more were put in. -/
def Stage.shift (n more : Nat) : Stage → Stage
  | .polling i => .polling (Search.shift n more i)
  | .abandoned i => .abandoned (Search.shift n more i)
  | .handling i => .handling (Search.shift n more i)
  | .handled i => .handled (Search.shift n more i)
  | .detecting => .detecting
  | .observing => .observing
  | .finished => .finished

namespace Search

/-- A state after some vendors more were put in. -/
def State.shift (n more : Nat) (s : State) : State := { s with stage := s.stage.shift n more }

@[simp] theorem State.shift_tried (n more : Nat) (s : State) : (s.shift n more).tried = s.tried :=
  rfl

/-- What follows a stage after some vendors more were put in. -/
def Next.shift (n more : Nat) : Next → Next
  | .goOn s => .goOn (s.shift n more)
  | .stop outcome => .stop outcome

/-- **A search that knows some vendors more** than another one. -/
structure Adds (x y : Search) (before extra after : List Vendor) : Prop where
  vendors : x.vendors = before ++ (extra ++ after)
  others : y.vendors = before ++ after
  setting : x.setting = y.setting

variable {x y : Search} {before extra after : List Vendor} {L : Tables} {n more : Nat}

/-- The other vendors stand at the positions that are shifted. -/
theorem Adds.vendor_at (hx : x.Adds y before extra after) (i : Nat) :
    x.vendors[shift before.length extra.length i]? = y.vendors[i]? := by
  rw [hx.vendors, hx.others]
  unfold shift
  by_cases hi : i < before.length
  · rw [if_pos hi, List.getElem?_append_left hi, List.getElem?_append_left hi]
  · have hle : before.length ≤ i := Nat.le_of_not_lt hi
    rw [if_neg hi, List.getElem?_append_right (by omega), List.getElem?_append_right hle,
      List.getElem?_append_right (by omega)]
    congr 1
    omega

/-! ## Stages -/

/-- What follows is the same but for positions. -/
abbrev Shifted (n more : Nat) : Tables → Next → Next → Prop := fun _ a b => a = b.shift n more

theorem shows_twin (v : Vendor) (attempt : Nat) :
    Routine.Twin (fun _ => (· = ·)) L (shows v attempt) (shows v attempt) := by
  refine Routine.Twin.bind (v.isShowing_twin L (le_refl _)) fun M r r' _ hr => ?_
  cases hr with
  | error e e' => exact .note _ _ (.done rfl)
  | @ok b _ hsame =>
    subst hsame
    cases b with
    | true => exact .note _ _ (.done rfl)
    | false => exact .done rfl

theorem poll_twin (hs : x.setting = y.setting) (v : Vendor) (left attempt : Nat) :
    Routine.Twin (fun _ => (· = ·)) L (x.poll v left attempt) (y.poll v left attempt) := by
  induction left generalizing L attempt with
  | zero => exact .done rfl
  | succ left ih =>
    have hwait : Routine.Twin (fun _ _ _ => True) L (x.waitBefore attempt)
        (y.waitBefore attempt) := by
      unfold waitBefore
      rw [hs]
      split
      · exact .sleep _ (.done trivial)
      · exact .done trivial
    refine hwait.bind fun M _ _ _ _ => (shows_twin v attempt).bind ?_
    rintro N shown _ - rfl
    split
    · exact .done rfl
    · exact ih (attempt + 1)

theorem look_twin {s s' : State} (hs : s = s'.shift n more) :
    Routine.Twin (Shifted n more) L (look s) (look s') := by
  subst hs
  refine (Routine.Twin.attempt .observe).bind fun M r r' _ hr => ?_
  obtain ⟨hpaired, hobserved⟩ := hr
  obtain ⟨o, rfl⟩ := hobserved rfl
  cases hpaired with
  | ok hsame =>
    obtain rfl := hsame
    exact .done rfl

theorem stopObserving_twin (o : Option Observer) :
    Routine.Twin (fun _ _ _ => True) L (stopObserving o) (stopObserving o) := by
  cases o with
  | none => exact .done trivial
  | some o => exact .drop o (.done trivial)

/-- **In every stage but a pass the searches do the same**, but for positions. -/
theorem step_twin (hx : x.Adds y before extra after) {s : State} (hs : s.stage ≠ .detecting) :
    Routine.Twin (Shifted before.length extra.length) L
      (x.step (s.shift before.length extra.length)) (y.step s) := by
  obtain ⟨stage, tried, handled, observer⟩ := s
  refine .note _ _ ?_
  cases stage with
  | detecting => exact absurd rfl hs
  | observing =>
    cases observer with
    | none => exact .done rfl
    | some o =>
      refine .await o fun records => ?_
      cases records with
      | none => exact .done rfl
      | some records => exact .note _ _ (.done rfl)
  | polling i =>
    dsimp only [State.shift, Stage.shift, Routine.bind]
    rw [hx.vendor_at i]
    cases y.vendors[i]? with
    | none => exact .done rfl
    | some u =>
      dsimp only
      rw [hx.setting]
      refine (poll_twin hx.setting u _ 1).bind ?_
      rintro M shown _ - rfl
      cases shown with
      | true => exact .done rfl
      | false => exact .done rfl
  | abandoned i => exact .note _ _ (look_twin rfl)
  | handling i =>
    dsimp only [State.shift, Stage.shift, Routine.bind]
    rw [hx.vendor_at i]
    cases y.vendors[i]? with
    | none => exact .done rfl
    | some u =>
      dsimp only
      rw [hx.setting]
      exact (u.handling_twin y.setting L {} {} (le_refl _) ⟨.nil, .nil⟩).bind fun _ _ _ _ _ =>
        .done rfl
  | handled i =>
    refine .note _ _ ?_
    change Routine.Twin _ L (if x.setting.pace.keepObserving then _ else _)
      (if y.setting.pace.keepObserving then _ else _)
    rw [hx.setting]
    split
    · exact look_twin rfl
    · exact .done rfl
  | finished => exact (stopObserving_twin observer).bind fun _ _ _ _ _ => .done rfl

/-! ## Passes -/

/-- A candidate after some vendors more were put in. -/
def shiftCandidate (n more : Nat) (c : Nat × String) : Nat × String := (shift n more c.1, c.2)

/-- What a pass does once a vendor was asked, if the vendors after it are asked then. -/
def afterAsking (i : Nat) (v : Vendor) (rest : Routine (List (Nat × String))) :
    Except PageError Bool → Routine (List (Nat × String))
  | .ok true => rest.bind fun more => .done ((i, v.name) :: more)
  | .ok false => rest
  | .error e => .note (.detectionFailed v.name e) rest

theorem candidates_cons (tried : List String) (i : Nat) (v : Vendor) (rest : List Vendor) :
    candidates tried i (v :: rest) = if tried.contains v.name then candidates tried (i + 1) rest
      else v.detect.run.bind (afterAsking i v (candidates tried (i + 1) rest)) := by
  have hafter : afterAsking i v (candidates tried (i + 1) rest) = fun
      | .ok true => (candidates tried (i + 1) rest).bind fun more => .done ((i, v.name) :: more)
      | .ok false => candidates tried (i + 1) rest
      | .error e => .note (.detectionFailed v.name e) (candidates tried (i + 1) rest) := by
    funext answer
    rcases answer with e | _ | _ <;> rfl
  rw [hafter]
  rfl

/-- The same vendors are asked alike, from other positions on. -/
theorem candidates_twin (n more : Nat) (tried : List String) {vs : List Vendor} {i j : Nat}
    (hij : ∀ k < vs.length, i + k = shift n more (j + k)) :
    Routine.Twin (fun _ a b => a = b.map (shiftCandidate n more)) L (candidates tried i vs)
      (candidates tried j vs) := by
  induction vs generalizing i j L with
  | nil => exact .done rfl
  | cons u rest ih =>
    have hi : i = shift n more j := hij 0 (Nat.zero_lt_succ _)
    have hrest : ∀ M, Routine.Twin (fun _ a b => a = b.map (shiftCandidate n more)) M
        (candidates tried (i + 1) rest) (candidates tried (j + 1) rest) := by
      intro M
      refine ih fun k hk => ?_
      rw [Nat.add_assoc, Nat.add_assoc, Nat.add_comm 1 k]
      exact hij (k + 1) (Nat.succ_lt_succ hk)
    rw [candidates_cons, candidates_cons]
    split
    · exact hrest L
    · refine Routine.Twin.bind (u.detect_twin L (le_refl _)) fun M r r' _ hr => ?_
      cases hr with
      | error e e' => exact .note _ _ (hrest M)
      | @ok b _ hsame =>
        obtain rfl := hsame
        cases b with
        | false => exact hrest M
        | true =>
          refine (hrest M).bind ?_
          rintro N more _ - rfl
          refine .done ?_
          rw [List.map_cons, hi]
          rfl

/-- The first of the vendors whose dialogs are in the page is to be tried. -/
def pickFirst (found : List (Nat × String)) : Routine (Option (Nat × String)) :=
  match found.head? with
  | none => .done none
  | some c => .note (.detected c.2) (.done (some c))

/-- So it is, and it is told if there are others. -/
def pick (found : List (Nat × String)) : Routine (Option (Nat × String)) :=
  if 1 < found.length then .note (.severalDetected (found.map Prod.snd)) (pickFirst found)
  else pickFirst found

/-- **A pass**: the vendors are asked one after another, and the first that was found is tried. -/
theorem step_detecting {s : State} (hs : s.stage = .detecting) :
    x.step s = .note (.stage s.stage) ((candidates s.tried 0 x.vendors).bind fun found =>
      (pick found).bind (afterPass s)) := by
  obtain ⟨stage, tried, handled, observer⟩ := s
  obtain rfl : stage = .detecting := hs
  change Routine.note _ (((candidates tried 0 x.vendors).bind pick).bind _) = _
  rw [Routine.bind_assoc]
  rfl

/-- Whatever was found, the first of it is the same but for its position. -/
theorem pick_twin (n more : Nat) (found : List (Nat × String)) :
    Routine.Twin (fun _ a b => a = b.map (shiftCandidate n more)) L
      (pick (found.map (shiftCandidate n more))) (pick found) := by
  have hfirst : Routine.Twin (fun _ a b => a = b.map (shiftCandidate n more)) L
      (pickFirst (found.map (shiftCandidate n more))) (pickFirst found) := by
    cases found with
    | nil => exact .done rfl
    | cons c rest => exact .note _ _ (.done rfl)
  unfold pick
  rw [List.length_map]
  split
  · exact .note _ _ hfirst
  · exact hfirst

theorem afterPass_twin (n more : Nat) (s : State) (c : Option (Nat × String)) :
    Routine.Twin (Shifted n more) L
      (afterPass (s.shift n more) (c.map (shiftCandidate n more))) (afterPass s c) := by
  cases c with
  | none => exact .done rfl
  | some c => exact (stopObserving_twin s.observer).bind fun _ _ _ _ _ => .done rfl

/-! ### Vendors that are passed over -/

variable {w w' : World} {tried : List String} {vs : List Vendor}

/-- **No detector says that its dialog is in the page**: each says no, or cannot be asked, and then
the others are not asked. -/
def Unseen : List Detector → World → Prop
  | [], _ => True
  | d :: rest, w =>
    (World.alone (d.present.holds none).run w).1 ≠ .ok true ∧
      ((World.alone (d.present.holds none).run w).1 = .ok false →
        Unseen rest (World.alone (d.present.holds none).run w).2)

instance decidableUnseen : (ds : List Detector) → (w : World) → Decidable (Unseen ds w)
  | [], _ => .isTrue trivial
  | d :: rest, w =>
    have := decidableUnseen rest (World.alone (d.present.holds none).run w).2
    inferInstanceAs (Decidable ((World.alone (d.present.holds none).run w).1 ≠ .ok true ∧
      ((World.alone (d.present.holds none).run w).1 = .ok false →
        Unseen rest (World.alone (d.present.holds none).run w).2)))

theorem unseen_detectors_iff (ds : List Detector) (w : World) :
    Unseen ds w ↔ ∀ d, (World.alone (Vendor.firstPresent ds).run w).1 ≠ .ok (some d) := by
  induction ds generalizing w with
  | nil => exact ⟨fun _ _ => nofun, fun _ => trivial⟩
  | cons d rest ih =>
    rw [Vendor.firstPresent, ExceptT.run_bind, Routine.bind_eq, World.alone_bind, Unseen]
    generalize World.alone (d.present.holds none).run w = r
    obtain ⟨answer, w₁⟩ := r
    rcases answer with e | _ | _
    · simp [World.alone]
    · simpa using ih w₁
    · simp [World.alone]

/-- That is so of the detectors of a vendor unless its dialog is found. -/
theorem unseen_iff (v : Vendor) (w : World) :
    Unseen v.detectors w ↔ (World.alone v.detect.run w).1 ≠ .ok true := by
  rw [unseen_detectors_iff, Vendor.detect, ExceptT.run_bind, Routine.bind_eq, World.alone_bind]
  generalize World.alone (Vendor.firstPresent v.detectors).run w = r
  obtain ⟨answer, w₁⟩ := r
  rcases answer with e | _ | d
  · simp [World.alone]
  · simp [World.alone]
  · simp [World.alone]

/-- **Vendors that are passed over**, one after another: each was tried before, or is not found. -/
def PassedOver (tried : List String) : List Vendor → World → Prop
  | [], _ => True
  | v :: rest, w =>
    if v.name ∈ tried then PassedOver tried rest w
    else Unseen v.detectors w ∧ PassedOver tried rest (World.alone v.detect.run w).2

instance decidablePassedOver (tried : List String) :
    (vs : List Vendor) → (w : World) → Decidable (PassedOver tried vs w)
  | [], _ => .isTrue trivial
  | v :: rest, w =>
    have := decidablePassedOver tried rest w
    have := decidablePassedOver tried rest (World.alone v.detect.run w).2
    inferInstanceAs (Decidable (if v.name ∈ tried then PassedOver tried rest w
      else Unseen v.detectors w ∧ PassedOver tried rest (World.alone v.detect.run w).2))

/-- **A pass that overlooks some vendors**, when they are asked after those that stand before
them. -/
def Overlooks (before extra : List Vendor) (tried : List String) (w : World) : Prop :=
  PassedOver tried extra (World.alone (candidates tried 0 before) w).2

instance : Decidable (Overlooks before extra tried w) := inferInstanceAs (Decidable (PassedOver ..))

theorem PassedOver.told (h : PassedOver tried vs w) (told : List Notice) :
    PassedOver tried vs { w with told := told } := by
  induction vs generalizing w told with
  | nil => trivial
  | cons v rest ih =>
    obtain ⟨told', hdetect⟩ := World.alone_told v.detect.run w told
    rw [PassedOver] at h ⊢
    split
    · next htried =>
      rw [if_pos htried] at h
      exact ih h told
    · next htried =>
      rw [if_neg htried, unseen_iff] at h
      rw [unseen_iff, hdetect]
      exact ⟨h.1, ih h.2 told'⟩

/-- What was told makes no difference to that. -/
theorem Overlooks.told (h : Overlooks before extra tried w) (told : List Notice) :
    Overlooks before extra tried { w with told := told } := by
  obtain ⟨told', hbefore⟩ := World.alone_told (candidates tried 0 before) w told
  unfold Overlooks
  rw [hbefore]
  exact PassedOver.told h told'

/-- The vendors that come after those passed over are asked as without them. -/
theorem passedOver_twins {i : Nat} (hw : w.Twins w') (hpassed : PassedOver tried vs w) {p : Nat}
    (hp : p + vs.length = i + more) (hi : n ≤ i) :
    World.Comes (fun _ a b => a = b.map (shiftCandidate n more)) w w'
      (World.alone (candidates tried p (vs ++ after)) w)
      (World.alone (candidates tried i after) w') := by
  induction vs generalizing w p with
  | nil =>
    obtain rfl : p = i + more := hp
    have hmoved : ∀ k < after.length, i + more + k = shift n more (i + k) := by
      intro k _
      unfold shift
      rw [if_neg (by omega)]
      omega
    exact hw.alone (candidates_twin n more tried hmoved) (candidates_looks _ _ _)
      (candidates_looks _ _ _)
      (fun _ _ _ _ _ h => h) (le_refl _)
  | cons v rest ih =>
    have hrest : p + 1 + rest.length = i + more := by
      rw [← hp, List.length_cons]
      omega
    unfold PassedOver at hpassed
    rw [List.cons_append, candidates_cons]
    split
    · next htried =>
      rw [if_pos (by simpa using htried)] at hpassed
      exact ih hw hpassed hrest
    · next hnew =>
      rw [if_neg (by simpa using hnew), unseen_iff] at hpassed
      obtain ⟨hasked, hlater⟩ := hpassed
      obtain ⟨htwins, hgrow⟩ := hw.alone_left v.detect_looks
      rw [World.alone_bind]
      generalize World.alone v.detect.run w = r at hasked hlater htwins hgrow
      obtain ⟨answer, w₁⟩ := r
      rcases answer with e | _ | _
      · exact (ih (htwins.tell_left _) (hlater.told _) hrest).later hgrow
      · exact (ih htwins hlater hrest).later hgrow
      · exact absurd rfl hasked

/-- **A pass that overlooks some vendors finds what it finds without them.** -/
theorem candidates_twins {i : Nat} (hi : i + before.length = n) (hw : w.Twins w')
    (hover : PassedOver tried extra (World.alone (candidates tried i before) w).2) :
    World.Comes (fun _ a b => a = b.map (shiftCandidate n extra.length)) w w'
      (World.alone (candidates tried i (before ++ (extra ++ after))) w)
      (World.alone (candidates tried i (before ++ after)) w') := by
  induction before generalizing i w w' with
  | nil =>
    obtain rfl : i = n := hi
    exact passedOver_twins hw hover rfl (Nat.le_refl _)
  | cons u rest ih =>
    have hnext : i + 1 + rest.length = n := by
      rw [← hi, List.length_cons, Nat.add_assoc, Nat.add_comm 1]
    rw [candidates_cons] at hover
    rw [List.cons_append, List.cons_append, candidates_cons, candidates_cons]
    split
    · next htried =>
      rw [if_pos htried] at hover
      exact ih hnext hw hover
    · next htried =>
      rw [if_neg htried, World.alone_bind] at hover
      have hasked :=
        hw.alone (u.detect_twin (w.tables w') (le_refl _)) u.detect_looks u.detect_looks
          (fun _ _ _ _ _ h => by
            cases h with
            | error => exact .error _ _
            | ok hsame => exact .ok hsame)
          (le_refl _)
      rw [World.alone_bind, World.alone_bind]
      generalize World.alone u.detect.run w = r at hasked hover
      generalize World.alone u.detect.run w' = r' at hasked
      obtain ⟨answer, w₁⟩ := r
      obtain ⟨answer', w₁'⟩ := r'
      obtain ⟨htwins, hgrow, hvalue⟩ := hasked
      cases hvalue with
      | error e e' => exact (ih hnext (htwins.tell _ _) hover).later hgrow
      | @ok b _ hsame =>
        obtain rfl := hsame
        cases b with
        | false => exact (ih hnext htwins hover).later hgrow
        | true =>
          unfold afterAsking at hover ⊢
          rw [World.alone_bind] at hover
          rw [World.alone_bind, World.alone_bind]
          obtain ⟨htwins', hgrow', hmore⟩ := ih hnext htwins hover
          refine ⟨htwins', le_trans hgrow hgrow', ?_⟩
          have hposition : i = shift n extra.length i := by
            unfold shift
            rw [if_pos (by rw [← hi, List.length_cons]; omega)]
          change (i, u.name) :: _ = shiftCandidate n extra.length (i, u.name) :: _
          rw [hmore, shiftCandidate, ← hposition]

/-- **A pass that overlooks some vendors lands where it lands without them.** -/
theorem step_lands_overlooking (hx : x.Adds y before extra after) {s : State}
    (hs : s.stage = .detecting) (hw : w.Twins w') (hover : Overlooks before extra s.tried w) :
    World.Lands (Shifted before.length extra.length) w w'
      (w.go (x.step (s.shift before.length extra.length))) (w'.go (y.step s)) := by
  have hs' : (s.shift before.length extra.length).stage = .detecting := by
    change s.stage.shift before.length extra.length = .detecting
    rw [hs]
    rfl
  have htold : (w.tell (.stage s.stage)).Twins (w'.tell (.stage s.stage)) := hw.tell _ _
  have hover' : PassedOver s.tried extra
      (World.alone (candidates s.tried 0 before) (w.tell (.stage s.stage))).2 := hover.told _
  have hfound : World.Comes (fun _ a b => a = b.map (shiftCandidate before.length extra.length))
      (w.tell (.stage s.stage)) (w'.tell (.stage s.stage))
      (World.alone (candidates s.tried 0 (before ++ (extra ++ after))) (w.tell (.stage s.stage)))
      (World.alone (candidates s.tried 0 (before ++ after)) (w'.tell (.stage s.stage))) :=
    candidates_twins (Nat.zero_add _) htold hover'
  rw [step_detecting hs, step_detecting hs', hs', ← hs, State.shift_tried, hx.vendors, hx.others]
  change World.Lands _ w w' ((w.tell _).go _) ((w'.tell _).go _)
  rw [World.go_bind_alone (candidates_looks _ _ _), World.go_bind_alone (candidates_looks _ _ _)]
  obtain ⟨htwins, hgrow, hvalue⟩ := hfound
  rw [hvalue]
  have hpicked := pick_twin (L := w.tables w') before.length extra.length
    (World.alone (candidates s.tried 0 (before ++ after)) (w'.tell (.stage s.stage))).1
  have hafter : ∀ M a b, w.tables w' ≤ M →
      a = Option.map (shiftCandidate before.length extra.length) b →
      Routine.Twin (Shifted before.length extra.length) M
        (afterPass (s.shift before.length extra.length) a) (afterPass s b) :=
    fun M a b _ hab => hab ▸ afterPass_twin _ _ s b
  exact (htwins.go (hpicked.bind hafter) (fun _ _ _ _ _ h => h) hgrow).later hgrow

end Search
end ConsentWalker
