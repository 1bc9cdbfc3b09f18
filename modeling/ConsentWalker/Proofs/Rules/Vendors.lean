import Mathlib.Data.List.Forall2
import ConsentWalker.Proofs.Rules.Grammar
import ConsentWalker.Walk.Search
/-!
# Rules — the grammar of vendors

`IsVendor` goes on from the grammar of steps: it tells which values are a vendor's rules, again
without a reader. Entries for methods are where it is lenient. Of one by an unknown name nothing but
the name matters; of several for a method all have to be right, and the last with steps counts
(`lastSteps`), so that `null` takes nothing back. `vendors_accepted` shows that vendors are read by
this grammar, each on its own, and what becomes of a catalog in which some are no rules: it is read
without them, or not at all.
-/

namespace ConsentWalker

open Json

namespace Rules

/-! ## The grammar -/

/-- **A detector**: both questions are there. -/
def IsDetector (node : Json) : Prop :=
  (∃ raw, node.get? "presentMatcher" = some raw ∧ IsMatcher raw) ∧
    ∃ raw, node.get? "showingMatcher" = some raw ∧ IsMatcher raw

/-- An entry by that name. -/
def Named (name : String) (entry : Json) : Prop := entry.get? "name" = some (.string name)

/-- The steps an entry has for a method. -/
def stepsFor (m : Method) (entry : Json) : Option Json :=
  if (entry.get? "name").bind Json.string? = some m.name then entry.present? "action" else none

/-- **An entry for a method**, known or not. Only what is there for a known one has to be steps. -/
structure IsEntry (entry : Json) : Prop where
  named : ∃ name, Named name entry
  steps : ∀ m raw, stepsFor m entry = some raw → IsAction raw

/-- The entries of a vendor, which may be left out or `null`. -/
def HasEntries (node : Json) (entries : List Json) : Prop :=
  node.get? "methods" = some (.array entries) ∨ node.present? "methods" = none ∧ entries = []

/-- **A vendor's rules.** -/
structure IsVendor (node : Json) : Prop where
  detectors : ∃ items, node.get? "detectors" = some (.array items) ∧ ∀ v ∈ items, IsDetector v
  methods : ∃ entries, HasEntries node entries ∧ ∀ e ∈ entries, IsEntry e

/-- **The steps that count for a method**: those of the last entry that has any. -/
def lastSteps (m : Method) (entries : List Json) : Option Json :=
  (entries.filterMap (stepsFor m)).getLast?

/-- What a detector is read as. -/
structure DetectorOf (node : Json) (d : Detector) : Prop where
  present : ∃ raw, node.get? "presentMatcher" = some raw ∧ Matcher.read raw = .ok d.present
  showing : ∃ raw, node.get? "showingMatcher" = some raw ∧ Matcher.read raw = .ok d.showing

/-- **What a vendor is read as**: its detectors in their order, and for each method the steps that
count. -/
structure VendorOf (name : String) (node : Json) (v : Vendor) : Prop where
  name : v.name = name
  detectors : ∃ items, node.get? "detectors" = some (.array items) ∧
    List.Forall₂ DetectorOf items v.detectors
  methods : ∃ entries, HasEntries node entries ∧
    ∀ m, Option.Rel (fun raw a => Action.read raw = .ok a) (lastSteps m entries) (v.methods m)

/-! ## Detectors -/

section Detectors

variable {node : Json}

/-- One of the two questions is read as it stands there. -/
theorem detector_matcher_eq_ok {field : String} {m : Matcher} :
    Detector.read.matcher node field = .ok m ↔ ∃ raw, node.get? field = some raw ∧
      Matcher.read raw = .ok m := by
  unfold Detector.read.matcher
  cases node.get? field with
  | none => simp
  | some raw => simp

theorem succeeds_detector_matcher {field : String} :
    Succeeds (Detector.read.matcher node field) ↔ ∃ raw, node.get? field = some raw ∧
      IsMatcher raw := by
  constructor
  · rintro ⟨m, hm⟩
    obtain ⟨raw, hraw, hread⟩ := detector_matcher_eq_ok.1 hm
    exact ⟨raw, hraw, matcher_accepted.1 ⟨m, hread⟩⟩
  · rintro ⟨raw, hraw, h⟩
    obtain ⟨m, hread⟩ := matcher_accepted.2 h
    exact ⟨m, detector_matcher_eq_ok.2 ⟨raw, hraw, hread⟩⟩

theorem succeeds_detector : Succeeds (Detector.read node) ↔ IsDetector node := by
  unfold Detector.read IsDetector
  rw [succeeds_bind_and fun _ => succeeds_bind_of fun _ => succeeds_pure _,
    succeeds_detector_matcher,
    succeeds_detector_matcher]

theorem detector_spec {d : Detector} (h : Detector.read node = .ok d) : DetectorOf node d := by
  unfold Detector.read at h
  obtain ⟨p, hp, h⟩ := bind_eq_ok.1 h
  obtain ⟨s, hs, h⟩ := bind_eq_ok.1 h
  cases h
  exact ⟨detector_matcher_eq_ok.1 hp, detector_matcher_eq_ok.1 hs⟩

end Detectors

/-! ## Entries for methods -/

section Entries

variable {node entry : Json} {entries rest : List Json} {m : Method} {v v' : Vendor}
  {passedOver : List String}

theorem methodEntries_eq_ok :
    Vendor.methodEntries node = .ok entries ↔ HasEntries node entries := by
  unfold Vendor.methodEntries HasEntries Json.present?
  cases node.get? "methods" with
  | none => simp [eq_comm]
  | some raw => cases raw <;> simp [eq_comm]

theorem named_iff {name : String} :
    (entry.get? "name").bind Json.string? = some name ↔ Named name entry := by
  unfold Named
  cases entry.get? "name" with
  | none => simp
  | some raw => cases raw <;> simp [Json.string?]

theorem ofName?_eq_some {name : String} : Method.ofName? name = some m ↔ m.name = name := by
  constructor
  · intro h
    simpa using List.find?_some h
  · rintro rfl
    exact Method.ofName?_name m

theorem stepsFor_of_named {name : String} (h : (entry.get? "name").bind Json.string? = some name) :
    stepsFor m entry = if name = m.name then entry.present? "action" else none := by
  simp only [stepsFor, h, Option.some_inj]

/-- An entry that is passed over has no steps for any method. -/
theorem stepsFor_of_unknown {name : String} (h : (entry.get? "name").bind Json.string? = some name)
    (hname : Method.ofName? name = none) : stepsFor m entry = none := by
  rw [stepsFor_of_named h, if_neg]
  intro heq
  rw [ofName?_eq_some.2 heq.symm] at hname
  cases hname

/-- An entry for a method has no steps for another one. -/
theorem stepsFor_of_known {name : String} {m₀ : Method}
    (h : (entry.get? "name").bind Json.string? = some name)
    (hname : Method.ofName? name = some m₀) :
    stepsFor m entry = if m = m₀ then entry.present? "action" else none := by
  have hwhich : name = m.name ↔ m = m₀ := by
    rw [eq_comm, ← ofName?_eq_some, hname, Option.some_inj, eq_comm]
  rw [stepsFor_of_named h]
  simp only [hwhich]

/-- The last entry has the last word, if it has steps. -/
theorem lastSteps_cons :
    lastSteps m (entry :: rest) = (lastSteps m rest).or (stepsFor m entry) := by
  unfold lastSteps
  cases h : stepsFor m entry with
  | none => rw [List.filterMap_cons_none h, Option.or_none]
  | some raw => rw [List.filterMap_cons_some h, List.getLast?_cons, Option.or_some]

/-- **A vendor with steps taken**, method by method, where there are any, and the same otherwise. -/
structure Takes (steps : Method → Option Json) (v v' : Vendor) : Prop where
  name : v'.name = v.name
  detectors : v'.detectors = v.detectors
  kept : ∀ m, steps m = none → v'.methods m = v.methods m
  taken : ∀ m raw, steps m = some raw → ∃ a, Action.read raw = .ok a ∧ v'.methods m = some a

theorem Takes.none {steps : Method → Option Json} (h : ∀ m, steps m = none) : Takes steps v v :=
  ⟨rfl, rfl, fun _ _ => rfl,
    fun m raw hraw => absurd ((h m).symm.trans hraw) (Option.some_ne_none raw).symm⟩

/-- What is taken later has precedence. -/
theorem Takes.trans {v₁ : Vendor} {steps later : Method → Option Json} (h : Takes steps v v₁)
    (h' : Takes later v₁ v') : Takes (fun m => (later m).or (steps m)) v v' := by
  refine ⟨h'.name.trans h.name, h'.detectors.trans h.detectors, fun m hm => ?_, fun m raw hm => ?_⟩
  · obtain ⟨hlater, hsteps⟩ := Option.or_eq_none_iff.1 hm
    exact (h'.kept m hlater).trans (h.kept m hsteps)
  · cases hlater : later m with
    | none =>
      rw [hlater, Option.none_or] at hm
      obtain ⟨a, ha, htaken⟩ := h.taken m raw hm
      exact ⟨a, ha, (h'.kept m hlater).trans htaken⟩
    | some raw' =>
      rw [hlater, Option.some_or] at hm
      exact h'.taken m raw (hlater.trans hm)

/-- The steps of one method are taken where they are the only ones. -/
theorem takes_withMethod {steps : Method → Option Json} {m₀ : Method} {raw : Json} {a : Action}
    (hsteps : ∀ m, steps m = if m = m₀ then some raw else none) (hread : Action.read raw = .ok a) :
    Takes steps v (v.withMethod m₀ a) := by
  refine ⟨rfl, rfl, fun m h => if_neg ?_, fun m raw' h => ?_⟩
  · rintro rfl
    rw [hsteps, if_pos rfl] at h
    cases h
  · rw [hsteps] at h
    obtain ⟨rfl, hraw⟩ := Option.ite_none_right_eq_some.1 h
    cases hraw
    exact ⟨a, hread, if_pos rfl⟩

/-- An entry without steps needs a name only. -/
theorem IsEntry.of_nothing (hnamed : ∃ name, Named name entry) (h : ∀ m, stepsFor m entry = none) :
    IsEntry entry := by
  refine ⟨hnamed, fun m raw hraw => ?_⟩
  rw [h m] at hraw
  cases hraw

/-- **What becomes of one entry**: it ends the reading, or its steps are taken. -/
theorem readMethods_cons_cases (v : Vendor) (passedOver : List String) (entry : Json)
    (rest : List Json) :
    (¬ IsEntry entry ∧
      ∃ e, Vendor.readMethods v passedOver (entry :: rest) = ⟨passedOver, .error e⟩) ∨
      IsEntry entry ∧ ∃ v₁ passedOver', Takes (fun m => stepsFor m entry) v v₁ ∧
        Vendor.readMethods v passedOver (entry :: rest) =
          Vendor.readMethods v₁ passedOver' rest := by
  rw [Vendor.readMethods]
  cases hname : (entry.get? "name").bind Json.string? with
  | none =>
    refine .inl ⟨fun h => ?_, _, rfl⟩
    obtain ⟨name, hnamed⟩ := h.named
    rw [named_iff.2 hnamed] at hname
    cases hname
  | some name =>
    have hnamed : ∃ name, Named name entry := ⟨name, named_iff.1 hname⟩
    dsimp only
    cases hmethod : Method.ofName? name with
    | none =>
      have hnothing : ∀ m, stepsFor m entry = none := fun m => stepsFor_of_unknown hname hmethod
      exact .inr ⟨.of_nothing hnamed hnothing, v, _, .none hnothing, rfl⟩
    | some m₀ =>
      have hsteps : ∀ m, stepsFor m entry = if m = m₀ then entry.present? "action" else none :=
        fun m => stepsFor_of_known hname hmethod
      dsimp only
      cases haction : entry.present? "action" with
      | none =>
        have hnothing : ∀ m, stepsFor m entry = none := fun m => by rw [hsteps, haction, ite_self]
        exact .inr ⟨.of_nothing hnamed hnothing, v, _, .none hnothing, rfl⟩
      | some raw =>
        rw [haction] at hsteps
        dsimp only
        cases hread : Action.read raw with
        | ok a =>
          refine .inr ⟨⟨hnamed, fun m raw' h => ?_⟩, v.withMethod m₀ a, _,
            takes_withMethod hsteps hread, rfl⟩
          rw [hsteps] at h
          obtain ⟨-, hraw⟩ := Option.ite_none_right_eq_some.1 h
          cases hraw
          exact (accepted_of_size raw).action.1 ⟨a, hread⟩
        | error e =>
          refine .inl ⟨fun h => ?_, e, rfl⟩
          have haction₀ : stepsFor m₀ entry = some raw := by rw [hsteps, if_pos rfl]
          obtain ⟨a, ha⟩ := (accepted_of_size raw).action.2 (h.steps m₀ raw haction₀)
          rw [hread] at ha
          cases ha

/-- **Entries are read if all of them are entries.** -/
theorem succeeds_readMethods :
    Succeeds (Vendor.readMethods v passedOver entries).answer ↔ ∀ e ∈ entries, IsEntry e := by
  induction entries generalizing v passedOver with
  | nil => exact ⟨fun _ e he => absurd he List.not_mem_nil, fun _ => succeeds_ok v⟩
  | cons entry rest ih =>
    rw [List.forall_mem_cons]
    rcases readMethods_cons_cases v passedOver entry rest with ⟨hno, e, h⟩ | ⟨hentry, v₁, p', -, h⟩
    · rw [h]
      exact ⟨fun hok => absurd hok (not_succeeds_error e), fun hall => absurd hall.1 hno⟩
    · rw [h, ih]
      exact (and_iff_right hentry).symm

/-- **The last steps are taken** for each method. -/
theorem readMethods_spec (h : (Vendor.readMethods v passedOver entries).answer = .ok v') :
    Takes (fun m => lastSteps m entries) v v' := by
  induction entries generalizing v passedOver with
  | nil =>
    cases h
    exact .none fun _ => rfl
  | cons entry rest ih =>
    rcases readMethods_cons_cases v passedOver entry rest with
      ⟨-, e, hrun⟩ | ⟨-, v₁, p', htakes, hrun⟩
    · rw [hrun] at h
      cases h
    · rw [hrun] at h
      simp only [lastSteps_cons]
      exact htakes.trans (ih h)

/-- Entries that are the same, or have the same unknown name. -/
def SameForMethods (entry entry' : Json) : Prop :=
  entry = entry' ∨ ∃ name, Method.ofName? name = none ∧ Named name entry ∧ Named name entry'

/-- **What stands under an unknown name is never looked at.** -/
theorem readMethods_congr {entries' : List Json}
    (h : List.Forall₂ SameForMethods entries entries') :
    Vendor.readMethods v passedOver entries = Vendor.readMethods v passedOver entries' := by
  induction h generalizing v passedOver with
  | nil => rfl
  | cons hsame _ ih =>
    rcases hsame with rfl | ⟨name, hunknown, hnamed, hnamed'⟩
    · simp only [Vendor.readMethods, ih]
    · simp only [Vendor.readMethods, named_iff.2 hnamed, named_iff.2 hnamed', hunknown, ih]

end Entries

/-! ## Vendors -/

section Vendors

variable {name : String} {node : Json} {items : List Json} {v : Vendor}

/-- Detectors are read before the entries. -/
theorem read_answer (h : node.get? "detectors" = some (.array items)) :
    (Vendor.read name node).answer =
      items.mapM Detector.read >>= fun detectors => Vendor.methodEntries node >>= fun entries =>
        (Vendor.readMethods { name, detectors } [] entries).answer := by
  unfold Vendor.read
  rw [h, Option.bind_some, Json.items?]
  dsimp only
  cases items.mapM Detector.read with
  | error e => rfl
  | ok detectors => cases Vendor.methodEntries node <;> rfl

/-- Without a list of detectors there is no vendor. -/
theorem detectors_of_succeeds (h : Succeeds (Vendor.read name node).answer) :
    ∃ items, node.get? "detectors" = some (.array items) := by
  unfold Vendor.read at h
  cases hitems : (node.get? "detectors").bind Json.items? with
  | none =>
    rw [hitems] at h
    exact absurd h (not_succeeds_error _)
  | some items =>
    obtain ⟨raw, hraw, harray⟩ := Option.bind_eq_some_iff.1 hitems
    exact ⟨items, hraw.trans (congrArg some (items?_eq_some.1 harray))⟩

/-- **A vendor is read if and only if it is one.** -/
theorem succeeds_read : Succeeds (Vendor.read name node).answer ↔ IsVendor node := by
  constructor
  · intro h
    obtain ⟨items, hitems⟩ := detectors_of_succeeds h
    rw [read_answer hitems] at h
    obtain ⟨detectors, hdetectors, h⟩ := succeeds_bind.1 h
    obtain ⟨entries, hentries, h⟩ := succeeds_bind.1 h
    have hall := succeeds_mapM.1 ⟨detectors, hdetectors⟩
    exact ⟨⟨items, hitems, fun raw hraw => succeeds_detector.1 (hall raw hraw)⟩,
      ⟨entries, methodEntries_eq_ok.1 hentries, succeeds_readMethods.1 h⟩⟩
  · rintro ⟨⟨items, hitems, hdetectors⟩, ⟨entries, hentries, hall⟩⟩
    rw [read_answer hitems]
    obtain ⟨detectors, hread⟩ :=
      succeeds_mapM.2 fun raw hraw => succeeds_detector.2 (hdetectors raw hraw)
    exact succeeds_bind.2
      ⟨detectors, hread, succeeds_bind.2 ⟨entries, methodEntries_eq_ok.2 hentries,
      succeeds_readMethods.2 hall⟩⟩

/-- It is read as what it is. -/
theorem read_spec (h : (Vendor.read name node).answer = .ok v) : VendorOf name node v := by
  obtain ⟨items, hitems⟩ := detectors_of_succeeds ⟨v, h⟩
  rw [read_answer hitems] at h
  obtain ⟨detectors, hdetectors, h⟩ := bind_eq_ok.1 h
  obtain ⟨entries, hentries, h⟩ := bind_eq_ok.1 h
  have htakes := readMethods_spec h
  refine ⟨htakes.name, ⟨items, hitems, ?_⟩, ⟨entries, methodEntries_eq_ok.1 hentries, fun m => ?_⟩⟩
  · rw [htakes.detectors]
    exact (mapM_eq_ok.1 hdetectors).imp fun _ _ => detector_spec
  · cases hlast : lastSteps m entries with
    | none =>
      rw [htakes.kept m hlast]
      exact .none
    | some raw =>
      obtain ⟨a, ha, htaken⟩ := htakes.taken m raw hlast
      rw [htaken]
      exact .some ha

/-- Vendors that are the same but for what stands under unknown names. -/
structure SameButUnknown (node node' : Json) : Prop where
  detectors : node'.get? "detectors" = node.get? "detectors"
  methods : ∃ entries entries', HasEntries node entries ∧ HasEntries node' entries' ∧
    List.Forall₂ SameForMethods entries entries'

theorem SameButUnknown.read_eq {node' : Json} (h : SameButUnknown node node') :
    Vendor.read name node = Vendor.read name node' := by
  obtain ⟨entries, entries', hentries, hentries', hsame⟩ := h.methods
  unfold Vendor.read
  rw [h.detectors, methodEntries_eq_ok.2 hentries, methodEntries_eq_ok.2 hentries']
  cases (node.get? "detectors").bind Json.items? with
  | none => rfl
  | some items =>
    cases hread : items.mapM Detector.read with
    | error e => simp only [hread]
    | ok detectors => simp only [hread, readMethods_congr hsame]

/-- A reader tells which values are vendors. -/
instance : Decidable (IsVendor node) :=
  match h : (Vendor.read "" node).answer with
  | .ok v => isTrue (succeeds_read.1 ⟨v, h⟩)
  | .error e => isFalse fun hvendor => not_succeeds_error e (h ▸ succeeds_read.2 hvendor)

end Vendors

/-! ## Catalogs -/

section Catalogs

variable {c : Catalog} {vs : List Vendor}

/-- What the vendor of an entry is read as. -/
def Builds (entry : String × Json) (v : Vendor) : Prop :=
  (Vendor.read entry.1 entry.2).answer = .ok v

theorem builds_of_toOption {entries : List (String × Json)} :
    List.Forall₂ Builds (entries.filter (IsVendor ·.2))
      (entries.filterMap fun entry => (Vendor.read entry.1 entry.2).answer.toOption) := by
  induction entries with
  | nil => exact .nil
  | cons entry rest ih =>
    cases hread : (Vendor.read entry.1 entry.2).answer with
    | ok v =>
      have hvendor : IsVendor entry.2 := succeeds_read.1 ⟨v, hread⟩
      rw [List.filter_cons_of_pos (by simpa using hvendor),
        List.filterMap_cons_some (by rw [hread]; rfl)]
      exact .cons hread ih
    | error e =>
      have hno : ¬ IsVendor entry.2 := fun h => not_succeeds_error e (hread ▸ succeeds_read.2 h)
      rw [List.filter_cons_of_neg (by simpa using hno),
        List.filterMap_cons_none (by rw [hread]; rfl)]
      exact ih

theorem builds_rightUnique : Relator.RightUnique Builds :=
  fun _ _ _ h h' => Except.ok.inj (h.symm.trans h')

/-- **The vendors that can be read are kept**, and no others. -/
theorem vendors_kept (c : Catalog) :
    List.Forall₂ Builds (c.entries.filter (IsVendor ·.2)) c.vendors := by
  unfold Catalog.vendors Catalog.build
  rw [List.filterMap_map]
  exact builds_of_toOption

theorem vendorsStrict_eq (c : Catalog) :
    c.vendorsStrict = c.entries.mapM fun entry => (Vendor.read entry.1 entry.2).answer := by
  unfold Catalog.vendorsStrict Catalog.build
  rw [List.mapM_map]
  rfl

/-- **All vendors are read, or none.** -/
theorem vendorsStrict_eq_ok :
    c.vendorsStrict = .ok vs ↔ (∀ entry ∈ c.entries, IsVendor entry.2) ∧ vs = c.vendors := by
  have hkept := vendors_kept c
  have hall : (∀ entry ∈ c.entries, IsVendor entry.2) →
      c.entries.filter (IsVendor ·.2) = c.entries :=
    fun h => List.filter_eq_self.2 fun entry hmem => by simpa using h entry hmem
  have hread : c.vendorsStrict = .ok vs ↔ List.Forall₂ Builds c.entries vs := by
    rw [vendorsStrict_eq]
    exact mapM_eq_ok
  constructor
  · intro h
    have hvendors : ∀ entry ∈ c.entries, IsVendor entry.2 := fun entry hmem =>
      succeeds_read.1 (succeeds_mapM.1 ⟨vs, (vendorsStrict_eq c).symm.trans h⟩ entry hmem)
    rw [hall hvendors] at hkept
    exact ⟨hvendors, List.right_unique_forall₂' builds_rightUnique (hread.1 h) hkept⟩
  · rintro ⟨hvendors, rfl⟩
    rw [hall hvendors] at hkept
    exact hread.2 hkept

/-- Where none are read, the error is that of the first that is no vendor. -/
theorem vendorsStrict_eq_error {e : RuleError} :
    c.vendorsStrict = .error e ↔
      ∃ before name node after, c.entries = before ++ (name, node) :: after ∧
      (∀ entry ∈ before, IsVendor entry.2) ∧ (Vendor.read name node).answer = .error e := by
  rw [vendorsStrict_eq, mapM_eq_error]
  constructor
  · rintro ⟨before, ⟨name, node⟩, after, hentries, hbefore, herror⟩
    exact ⟨before, name, node, after, hentries, fun entry h => succeeds_read.1 (hbefore entry h),
      herror⟩
  · rintro ⟨before, name, node, after, hentries, hbefore, herror⟩
    exact ⟨before, (name, node), after, hentries, fun entry h => succeeds_read.2 (hbefore entry h),
      herror⟩

/-- **Vendors are read by their grammar, each on its own.** A vendor is read exactly if it is one,
and as what it is, whatever stands under names that are unknown. Those of a catalog each have an
outcome, in the order in which they were declared. The catalog is read without those that are none,
in that order, or else as a whole, where the first that is none fails it. -/
theorem vendors_accepted :
    (∀ name node, (Succeeds (Vendor.read name node).answer ↔ IsVendor node) ∧
      (∀ v, (Vendor.read name node).answer = .ok v → VendorOf name node v) ∧
      ∀ node', SameButUnknown node node' → Vendor.read name node = Vendor.read name node') ∧
    ∀ c : Catalog,
      List.Forall₂
        (fun entry outcome => outcome = (entry.1, Vendor.read entry.1 entry.2)) c.entries c.build ∧
      List.Forall₂ Builds (c.entries.filter (IsVendor ·.2)) c.vendors ∧
      (∀ vs, c.vendorsStrict = .ok vs ↔ (∀ entry ∈ c.entries, IsVendor entry.2) ∧ vs = c.vendors) ∧
      ∀ e, c.vendorsStrict = .error e ↔
        ∃ before name node after, c.entries = before ++ (name, node) :: after ∧
        (∀ entry ∈ before, IsVendor entry.2) ∧ (Vendor.read name node).answer = .error e :=
  ⟨fun _ _ => ⟨succeeds_read, fun _ => read_spec, fun _ => SameButUnknown.read_eq⟩,
    fun c => ⟨List.forall₂_map_right_iff.2 (List.forall₂_same.2 fun _ _ => rfl), vendors_kept c,
      fun _ => vendorsStrict_eq_ok, fun _ => vendorsStrict_eq_error⟩⟩

/-- An entry for a method. -/
def entryFor (name : String) (action : Json) : Json :=
  .object [("name", .string name), ("action", action)]

/-- A vendor that closes the page to hide its dialog, which `null` does not take back. -/
def closingVendor : Json :=
  .object [("detectors", .array []), ("methods", .array
    [entryFor "HIDE_CMP" (.object [("type", .string "close")]), entryFor "UTILITY" (.bool true),
      entryFor "HIDE_CMP" .null])]

theorem isVendor_closingVendor : IsVendor closingVendor := by
  refine ⟨⟨[], rfl, fun _ h => absurd h List.not_mem_nil⟩, ⟨_, .inl rfl, fun e he => ?_⟩⟩
  rcases he with _ | ⟨_, _ | ⟨_, _ | ⟨_, ⟨⟩⟩⟩⟩
  · refine ⟨⟨"HIDE_CMP", rfl⟩, fun m raw h => ?_⟩
    cases m <;> cases h
    exact .close rfl
  · exact ⟨⟨"UTILITY", rfl⟩, fun m raw h => by cases m <;> cases h⟩
  · exact ⟨⟨"HIDE_CMP", rfl⟩, fun m raw h => by cases m <;> cases h⟩

/-- It is read with its steps to hide and no others, and a catalog is read without one that has no
detectors. -/
theorem closingVendor_accepted :
    (∃ v, (Vendor.read "sample" closingVendor).answer = .ok v ∧ v.methods .hideCmp = some .close ∧
      v.methods .doConsent = none) ∧
    (Catalog.mk [("sample", closingVendor), ("broken", .null)]).vendors.map Vendor.name =
      ["sample"] ∧
    (Catalog.mk [("sample", closingVendor), ("broken", .null)]).vendorsStrict =
      .error (.missingField "cmp" "detectors") := by
  obtain ⟨haccepted, hspec, -⟩ := vendors_accepted.1 "sample" closingVendor
  obtain ⟨-, hkept, -, hfails⟩ :=
    vendors_accepted.2 ⟨[("sample", closingVendor), ("broken", .null)]⟩
  obtain ⟨v, hv⟩ := haccepted.2 isVendor_closingVendor
  have hno : ¬ IsVendor .null := by
    rintro ⟨⟨items, hitems, -⟩, -⟩
    cases hitems
  refine ⟨⟨v, hv, ?_⟩, ?_,
    (hfails _).2 ⟨[("sample", closingVendor)], "broken", .null, [], rfl, ?_, rfl⟩⟩
  · obtain ⟨-, -, entries, hentries | ⟨hnone, -⟩, hmethods⟩ := hspec v hv
    · cases hentries
      have hhide := hmethods .hideCmp
      have hdo := hmethods .doConsent
      generalize v.methods .hideCmp = hides at hhide ⊢
      generalize v.methods .doConsent = does at hdo ⊢
      cases hdo
      cases hhide with
      | some hread => exact ⟨congrArg some (Except.ok.inj (hread.symm.trans (read_close rfl))), rfl⟩
    · cases hnone
  · have hfilter : [("sample", closingVendor), ("broken", .null)].filter (IsVendor ·.2) =
        [("sample", closingVendor)] := by simp [isVendor_closingVendor, hno]
    rw [hfilter] at hkept
    obtain ⟨v', vs, hread, hrest, hvs⟩ := List.forall₂_cons_left_iff.1 hkept
    rw [hvs, List.forall₂_nil_left_iff.1 hrest]
    exact congrArg ([·]) (hspec v' hread).name
  · exact fun entry hmem => (List.mem_singleton.1 hmem) ▸ isVendor_closingVendor

end Catalogs

end Rules
end ConsentWalker
