import Mathlib.Data.List.Forall2
import ConsentWalker.Json.Shape
/-!
# JSON — values that fit

When a reader comes to a value. `Succeeds` follows a reading through the things it is made of: one
after another, a list of them, a field that may be `null`, and a record whose fields are all free to
be left out. `succeeds_readRecord` says that such a record is read from an object exactly if
whatever stands under its fields' names is of their kinds.

An object that was read from text has one member of a name at most; here there may be several, and
every one has to fit.
-/

namespace ConsentWalker

namespace Json

/-! ## Kinds of values -/

/-- **Whatever stands under a name** in an object is of a kind; nothing need stand there. -/
def Under (name : String) (Kind : Json → Prop) (node : Json) : Prop :=
  ∀ members, node = .object members → ∀ v, (name, v) ∈ members → Kind v

/-- A truth value. -/
def IsBool (v : Json) : Prop := ∃ b, v = .bool b

/-- A whole number from zero up to a limit. -/
def IsNatural (limit : Nat) (v : Json) : Prop := ∃ n : Nat, n ≤ limit ∧ v = .nat n

/-- A value that is `null` or of a kind. -/
def NullOr (Kind : Json → Prop) (v : Json) : Prop := v = .null ∨ Kind v

/-! ## Readings that succeed -/

section Succeeding

variable {ε α β : Type}

/-- A reading that comes to a value. -/
def Succeeds (x : Except ε α) : Prop := ∃ a, x = .ok a

theorem succeeds_ok (a : α) : Succeeds (.ok a : Except ε α) := ⟨a, rfl⟩

theorem succeeds_pure (a : α) : Succeeds (pure a : Except ε α) := ⟨a, rfl⟩

theorem not_succeeds_error (e : ε) : ¬ Succeeds (.error e : Except ε α) := by
  rintro ⟨a, ha⟩
  cases ha

/-- **One reading after another succeeds if both do**, so that an error of either is one of both. -/
theorem succeeds_bind {x : Except ε α} {f : α → Except ε β} :
    Succeeds (x >>= f) ↔ ∃ a, x = .ok a ∧ Succeeds (f a) := by
  cases x with
  | error e =>
    constructor
    · intro h
      exact absurd h (not_succeeds_error e)
    · rintro ⟨a, ha, -⟩
      cases ha
  | ok a =>
    constructor
    · intro h
      exact ⟨a, rfl, h⟩
    · rintro ⟨b, hb, h⟩
      cases hb
      exact h

/-- Where the second does not depend on the first, both are asked on their own. -/
theorem succeeds_bind_and {x : Except ε α} {f : α → Except ε β} {P : Prop}
    (hf : ∀ a, Succeeds (f a) ↔ P) : Succeeds (x >>= f) ↔ Succeeds x ∧ P := by
  rw [succeeds_bind]
  constructor
  · rintro ⟨a, ha, h⟩
    exact ⟨⟨a, ha⟩, (hf a).1 h⟩
  · rintro ⟨⟨a, ha⟩, h⟩
    exact ⟨a, ha, (hf a).2 h⟩

/-- What is made of a value without fail succeeds if the value is read. -/
theorem succeeds_bind_of {x : Except ε α} {f : α → Except ε β} (hf : ∀ a, Succeeds (f a)) :
    Succeeds (x >>= f) ↔ Succeeds x := by
  rw [succeeds_bind_and fun a => iff_true_intro (hf a), and_true]

/-- A reading whose value is made into another one succeeds as often. -/
theorem succeeds_map {x : Except ε α} {f : α → β} : Succeeds (x.map f) ↔ Succeeds x := by
  cases x with
  | error e =>
    exact ⟨fun h => absurd h (not_succeeds_error e), fun h => absurd h (not_succeeds_error e)⟩
  | ok a => exact ⟨fun _ => succeeds_ok a, fun _ => succeeds_ok (f a)⟩

/-- **A list is read if each of its members is.** -/
theorem succeeds_mapM {f : α → Except ε β} {as : List α} :
    Succeeds (as.mapM f) ↔ ∀ a ∈ as, Succeeds (f a) := by
  induction as with
  | nil =>
    rw [List.mapM_nil]
    exact ⟨fun _ a ha => absurd ha List.not_mem_nil, fun _ => succeeds_ok []⟩
  | cons a as ih =>
    rw [List.mapM_cons, List.forall_mem_cons, ← ih, succeeds_bind]
    have hrest : ∀ b, Succeeds (do return b :: (← as.mapM f)) ↔ Succeeds (as.mapM f) :=
      fun b => succeeds_bind_of fun bs => succeeds_pure (b :: bs)
    constructor
    · rintro ⟨b, hb, h⟩
      exact ⟨⟨b, hb⟩, (hrest b).1 h⟩
    · rintro ⟨⟨b, hb⟩, h⟩
      exact ⟨b, hb, (hrest b).2 h⟩

/-- What one reading after another comes to. -/
theorem bind_eq_ok {x : Except ε α} {f : α → Except ε β} {b : β} :
    (x >>= f) = .ok b ↔ ∃ a, x = .ok a ∧ f a = .ok b := by
  cases x with
  | error e => exact ⟨nofun, fun ⟨a, h, _⟩ => nomatch h⟩
  | ok a => exact ⟨fun h => ⟨a, rfl, h⟩, fun ⟨_, rfl, h⟩ => h⟩

/-- **A list is read member by member**, in order. -/
theorem mapM_eq_ok {f : α → Except ε β} {as : List α} {bs : List β} :
    as.mapM f = .ok bs ↔ List.Forall₂ (fun a b => f a = .ok b) as bs := by
  induction as generalizing bs with
  | nil =>
    rw [List.mapM_nil, List.forall₂_nil_left_iff]
    exact ⟨fun h => by cases h; rfl, fun h => by rw [h]; rfl⟩
  | cons a as ih =>
    rw [List.mapM_cons, bind_eq_ok, List.forall₂_cons_left_iff]
    constructor
    · rintro ⟨b, hb, hrest⟩
      obtain ⟨bs', hbs, hcons⟩ := bind_eq_ok.1 hrest
      cases hcons
      exact ⟨b, bs', hb, ih.1 hbs, rfl⟩
    · rintro ⟨b, bs', hb, hbs, rfl⟩
      exact ⟨b, hb, bind_eq_ok.2 ⟨bs', ih.2 hbs, rfl⟩⟩

/-- The error of a reading, if it fails. -/
def error? : Except ε α → Option ε
  | .ok _ => none
  | .error e => some e

theorem error?_eq_some {x : Except ε α} {e : ε} : error? x = some e ↔ x = .error e := by
  cases x <;> simp [error?]

theorem error?_eq_none {x : Except ε α} : error? x = none ↔ Succeeds x := by
  cases x with
  | ok a => exact iff_of_true rfl (succeeds_ok a)
  | error e => exact iff_of_false (Option.some_ne_none e) (not_succeeds_error e)

/-- A list is read up to the first element that fails, and fails as that does. -/
theorem mapM_error? {f : α → Except ε β} {as : List α} :
    error? (as.mapM f) = as.findSome? fun a => error? (f a) := by
  induction as with
  | nil => rfl
  | cons a as ih =>
    rw [List.mapM_cons, List.findSome?_cons, ← ih]
    cases f a with
    | error e => rfl
    | ok b => cases as.mapM f <;> rfl

/-- The error is that of the first member that is not read. -/
theorem mapM_eq_error {f : α → Except ε β} {as : List α} {e : ε} :
    as.mapM f = .error e ↔
      ∃ before a after, as = before ++ a :: after ∧ (∀ b ∈ before, Succeeds (f b)) ∧
        f a = .error e := by
  rw [← error?_eq_some, mapM_error?, List.findSome?_eq_some_iff]
  simp only [error?_eq_some, error?_eq_none, and_comm]

end Succeeding

/-! ## Plain fields are read if they fit -/

theorem succeeds_readBool {v : Json} : Succeeds (readBool v) ↔ IsBool v := by
  cases v with
  | bool b => exact ⟨fun _ => ⟨b, rfl⟩, fun _ => succeeds_ok b⟩
  | _ =>
    constructor
    · intro h
      exact absurd h (not_succeeds_error _)
    · rintro ⟨b, hb⟩
      cases hb

theorem succeeds_readNatural {type : String} {limit : Nat} {v : Json} :
    Succeeds (readNatural type limit v) ↔ IsNatural limit v := by
  cases v with
  | number n =>
    cases n with
    | integer i =>
      unfold readNatural
      dsimp only
      by_cases hi : 0 ≤ i ∧ i ≤ limit
      · rw [if_pos hi]
        have hnat : i = (i.toNat : Int) := by omega
        refine ⟨fun _ => ⟨i.toNat, by omega, ?_⟩, fun _ => succeeds_ok _⟩
        rw [nat, ← hnat]
      · rw [if_neg hi]
        refine ⟨fun h => absurd h (not_succeeds_error _), ?_⟩
        rintro ⟨n, hle, hn⟩
        have hin : i = (n : Int) := by simpa [nat] using hn
        omega
    | real x =>
      refine ⟨fun h => absurd h (not_succeeds_error _), ?_⟩
      rintro ⟨n, -, hn⟩
      simp [nat] at hn
  | _ =>
    refine ⟨fun h => absurd h (not_succeeds_error _), ?_⟩
    rintro ⟨n, -, hn⟩
    cases hn

theorem succeeds_readOptional {α : Type} {read : Reader α} {Kind : Json → Prop}
    (hread : ∀ v, Succeeds (read v) ↔ Kind v) {v : Json} :
    Succeeds (readOptional read v) ↔ NullOr Kind v := by
  have hvalue : v ≠ .null → (Succeeds (readOptional read v) ↔ NullOr Kind v) := by
    intro hne
    have hmap : readOptional read v = (read v).map some := by
      cases v with
      | null => exact absurd rfl hne
      | _ => rfl
    rw [hmap, succeeds_map, hread]
    exact ⟨.inr, fun h => h.resolve_left hne⟩
  by_cases hnull : v = .null
  · subst hnull
    exact ⟨fun _ => .inl rfl, fun _ => succeeds_ok none⟩
  · exact hvalue hnull

/-- The kinds of values that the fields of a record take. -/
def Fits {ρ : Type} (fields : List (Field ρ)) (kindOf : String → Json → Prop) : Prop :=
  ∀ f ∈ fields, ∀ v r, Succeeds (f.read v r) ↔ kindOf f.name v

/-- **The members of an object are read if every one that is a field fits.** -/
theorem succeeds_readNamed {ρ : Type} {fields : List (Field ρ)}
    {kindOf : String → Json → Prop} (hfits : Fits fields kindOf) {members : List (String × Json)}
    {r : ρ} :
    Succeeds (readNamed fields members r) ↔
      ∀ f ∈ fields, ∀ v, (f.name, v) ∈ members → kindOf f.name v := by
  induction members generalizing r with
  | nil => exact ⟨fun _ f _ v hv => absurd hv List.not_mem_nil, fun _ => succeeds_ok r⟩
  | cons m rest ih =>
    obtain ⟨name, w⟩ := m
    rw [readNamed]
    -- the first member counts for the fields of its name, the others for the rest
    have hsplit : (∀ f ∈ fields, ∀ v, (f.name, v) ∈ (name, w) :: rest → kindOf f.name v) ↔
        (∀ f ∈ fields, f.name = name → kindOf f.name w) ∧
          ∀ f ∈ fields, ∀ v, (f.name, v) ∈ rest → kindOf f.name v := by
      constructor
      · intro h
        refine ⟨fun f hf hname => h f hf w ?_,
          fun f hf v hv => h f hf v (List.mem_cons_of_mem _ hv)⟩
        rw [hname]
        exact List.mem_cons_self
      · rintro ⟨hfirst, hrest⟩ f hf v hv
        rcases List.mem_cons.1 hv with heq | hv
        · obtain ⟨hname, rfl⟩ := Prod.mk.inj heq
          exact hfirst f hf hname
        · exact hrest f hf v hv
    rw [hsplit]
    cases hfound : fields.find? fun f => f.name == name with
    | none =>
      have hnone : ∀ f ∈ fields, f.name = name → kindOf f.name w := by
        intro f hf hname
        have hne := List.find?_eq_none.1 hfound f hf
        exact absurd (beq_iff_eq.2 hname) hne
      exact ih.trans ⟨fun h => ⟨hnone, h⟩, fun h => h.2⟩
    | some f =>
      have hf : f ∈ fields := List.mem_of_find?_eq_some hfound
      have hname : f.name = name := by simpa using List.find?_some hfound
      have hkind : (∀ g ∈ fields, g.name = name → kindOf g.name w) ↔ kindOf f.name w := by
        constructor
        · intro h
          exact h f hf hname
        · intro h g _ hg
          rw [hg, ← hname]
          exact h
      dsimp only
      rw [succeeds_bind, hkind, ← hfits f hf w r]
      constructor
      · rintro ⟨r', hr', hrest⟩
        exact ⟨⟨r', hr'⟩, ih.1 hrest⟩
      · rintro ⟨⟨r', hr'⟩, hrest⟩
        exact ⟨r', hr', ih.2 hrest⟩

/-- **A record none of whose fields is required is read from an object if its members fit.** -/
theorem succeeds_readRecord {ρ : Type} {type : String} {fields : List (Field ρ)} {start : ρ}
    {K : String → Json → Prop} (hfits : Fits fields K)
    (hfree : ∀ f ∈ fields, f.absence ≠ .required) {node : Json} {members : List (String × Json)}
    (hnode : node = .object members) :
    Succeeds (readRecord type fields start node) ↔
      ∀ f ∈ fields, Under f.name (K f.name) node := by
  have hunder : (∀ f ∈ fields, Under f.name (K f.name) node) ↔
      ∀ f ∈ fields, ∀ v, (f.name, v) ∈ members → K f.name v := by
    constructor
    · intro h f hf v hv
      exact h f hf members hnode v hv
    · intro h f hf members' hmembers v hv
      cases hnode.symm.trans hmembers
      exact h f hf v hv
  have hnone : (fields.find? fun f =>
      f.absence = .required && (find? f.name members).isNone) = none := by
    rw [List.find?_eq_none]
    intro f hf
    simp [hfree f hf]
  rw [hunder, ← succeeds_readNamed hfits (r := start), hnode]
  unfold readRecord
  dsimp only
  rw [succeeds_bind_of]
  intro r
  rw [hnone]
  exact succeeds_pure r

end Json
end ConsentWalker
