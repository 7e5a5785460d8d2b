import Mathlib.Data.List.Forall2

/-!
# Computations that may fail

What the result of a sequence of checked steps says about the steps. Registration, matching,
building and applying all run in `Except`, and every fact about them starts here: a success gives a
success of each step (`bind_eq_ok_iff`, `mapM_eq_ok_iff`), a failure gives the step that failed
(`bind_eq_error_iff`, `exists_of_mapM_eq_error`). What is known of a step is put into the steps after
it by `simp`, for which the equations of single steps are tagged. Two computations are compared step
by step by `SameOutcome`: both succeed with related results, or both fail with the same error.
-/

namespace Recast

variable {ε δ α β : Type}

/-! ### One step -/

@[simp] theorem pure_eq_ok (a : α) : (pure a : Except ε α) = .ok a := rfl

@[simp] theorem throw_eq_error (e : ε) : (throw e : Except ε α) = .error e := rfl

@[simp] theorem except_bind_eq (x : Except ε α) (f : α → Except ε β) : x.bind f = x >>= f := rfl

@[simp] theorem ok_bind (a : α) (f : α → Except ε β) : (.ok a >>= f) = f a := rfl

@[simp] theorem error_bind (e : ε) (f : α → Except ε β) : (.error e >>= f) = .error e := rfl

@[simp] theorem ok_map (a : α) (f : α → β) : (.ok a : Except ε α).map f = .ok (f a) := rfl

@[simp] theorem error_map (e : ε) (f : α → β) : (.error e : Except ε α).map f = .error e := rfl

@[simp] theorem ok_mapError (a : α) (f : ε → δ) : (.ok a : Except ε α).mapError f = .ok a := rfl

@[simp] theorem error_mapError (e : ε) (f : ε → δ) :
    (.error e : Except ε α).mapError f = .error (f e) := rfl

@[simp] theorem ok_toOption (a : α) : (.ok a : Except ε α).toOption = some a := rfl

@[simp] theorem error_toOption (e : ε) : (.error e : Except ε α).toOption = none := rfl

@[simp] theorem bind_eq_ok_iff {x : Except ε α} {f : α → Except ε β} {b : β} :
    (x >>= f) = .ok b ↔ ∃ a, x = .ok a ∧ f a = .ok b := by
  cases x <;> simp

@[simp] theorem bind_eq_error_iff {x : Except ε α} {f : α → Except ε β} {e : ε} :
    (x >>= f) = .error e ↔ x = .error e ∨ ∃ a, x = .ok a ∧ f a = .error e := by
  cases x <;> simp

@[simp] theorem map_eq_ok_iff {x : Except ε α} {f : α → β} {b : β} :
    x.map f = .ok b ↔ ∃ a, x = .ok a ∧ f a = b := by
  cases x <;> simp

@[simp] theorem map_eq_error_iff {x : Except ε α} {f : α → β} {e : ε} :
    x.map f = .error e ↔ x = .error e := by
  cases x <;> simp

@[simp] theorem mapError_eq_ok_iff {x : Except ε α} {f : ε → δ} {a : α} :
    x.mapError f = .ok a ↔ x = .ok a := by
  cases x <;> simp

@[simp] theorem toOption_eq_some_iff {x : Except ε α} {a : α} :
    x.toOption = some a ↔ x = .ok a := by
  cases x <;> simp

/-- A guard in front of a computation: it succeeds exactly when the guard lets it start. -/
theorem guard_eq_ok_iff {c : Prop} [Decidable c] {e : ε} {k : Unit → Except ε α} {a : α} :
    (if c then throw e >>= k else k ()) = .ok a ↔ ¬ c ∧ k () = .ok a := by
  split <;> simp_all

/-! ### Traversals -/

/-- **A traversal succeeds exactly when every element does**, with the results in order. -/
theorem mapM_eq_ok_iff {f : α → Except ε β} {l : List α} {r : List β} :
    l.mapM f = .ok r ↔ List.Forall₂ (fun a b ↦ f a = .ok b) l r := by
  induction l generalizing r with
  | nil => cases r <;> simp
  | cons a l ih =>
    rw [List.mapM_cons, bind_eq_ok_iff]
    constructor
    · rintro ⟨b, hb, h⟩
      obtain ⟨bs, hbs, h⟩ := bind_eq_ok_iff.1 h
      cases h
      exact .cons hb (ih.1 hbs)
    · rintro (_ | ⟨hb, hbs⟩)
      exact ⟨_, hb, bind_eq_ok_iff.2 ⟨_, ih.2 hbs, rfl⟩⟩

/-- A member on the right of a relation between lists comes from a member on the left. -/
theorem exists_of_mem_of_forall₂ {R : α → β → Prop} {l : List α} {r : List β}
    (h : List.Forall₂ R l r) {b : β} (hb : b ∈ r) : ∃ a ∈ l, R a b := by
  induction h with
  | nil => cases hb
  | cons hab _ ih =>
    rcases List.mem_cons.1 hb with rfl | hb
    · exact ⟨_, List.mem_cons_self, hab⟩
    · obtain ⟨a, ha, hab⟩ := ih hb
      exact ⟨a, List.mem_cons_of_mem _ ha, hab⟩

/-- A member on the left of a relation between lists has one on the right. -/
theorem exists_of_mem_left_of_forall₂ {R : α → β → Prop} {l : List α} {r : List β}
    (h : List.Forall₂ R l r) {a : α} (ha : a ∈ l) : ∃ b ∈ r, R a b :=
  exists_of_mem_of_forall₂ h.flip ha

/-- If each pair of two lists is related by way of something, the lists are by way of a list. -/
theorem exists_forall₂_of_forall₂ {γ : Type} {P : α → γ → Prop} {R : γ → β → Prop} {l : List α}
    {r : List β} (h : List.Forall₂ (fun a b ↦ ∃ c, P a c ∧ R c b) l r) :
    ∃ m, List.Forall₂ P l m ∧ List.Forall₂ R m r := by
  induction h with
  | nil => exact ⟨[], .nil, .nil⟩
  | cons hab _ ih =>
    obtain ⟨c, hac, hcb⟩ := hab
    obtain ⟨m, hl, hr⟩ := ih
    exact ⟨c :: m, .cons hac hl, .cons hcb hr⟩

/-- A list has a related one exactly if each of its members has. -/
theorem exists_forall₂_iff {R : α → β → Prop} {l : List α} :
    (∃ r, List.Forall₂ R l r) ↔ ∀ a ∈ l, ∃ b, R a b := by
  constructor
  · rintro ⟨r, h⟩ a ha
    obtain ⟨b, -, hab⟩ := exists_of_mem_left_of_forall₂ h ha
    exact ⟨b, hab⟩
  · intro h
    induction l with
    | nil => exact ⟨[], .nil⟩
    | cons a l ih =>
      obtain ⟨⟨b, hab⟩, hl⟩ := List.forall_mem_cons.1 h
      obtain ⟨r, hr⟩ := ih hl
      exact ⟨b :: r, .cons hab hr⟩

/-- The outcomes that are there are those of the elements with a property, in order, if the property
tells them apart. -/
theorem map_filterMap_id_of_forall₂ {γ : Type} {f : β → γ} {g : α → γ} {p : α → Bool} {l : List α}
    {outcomes : List (Option β)}
    (h : List.Forall₂ (fun a outcome ↦ outcome.isSome = p a ∧ ∀ b, outcome = some b → f b = g a)
      l outcomes) :
    (outcomes.filterMap id).map f = (l.filter p).map g := by
  induction h with
  | nil => rfl
  | @cons a outcome _ _ ha _ ih =>
    obtain ⟨hsome, hb⟩ := ha
    rcases outcome with - | b
    · have hp : ¬ p a = true := by simp [← hsome]
      rw [List.filterMap_cons_none rfl, List.filter_cons_of_neg hp, ih]
    · have hp : p a = true := hsome.symm
      have hid : id (some b) = some b := rfl
      rw [List.filterMap_cons_some hid, List.filter_cons_of_pos hp, List.map_cons, List.map_cons,
        ih, hb b rfl]

/-- **A traversal fails exactly at the first element that does**, with its error. -/
theorem mapM_eq_error_iff {f : α → Except ε β} {l : List α} {e : ε} :
    l.mapM f = .error e ↔ ∃ before a after, l = before ++ a :: after ∧
      (∀ b ∈ before, ∃ r, f b = .ok r) ∧ f a = .error e := by
  induction l with
  | nil => simp
  | cons a l ih =>
    have hcons : (a :: l).mapM f = .error e ↔
        f a = .error e ∨ (∃ b, f a = .ok b) ∧ l.mapM f = .error e := by
      have hpure : ∀ bs : List β, (pure bs : Except ε (List β)) ≠ .error e := fun bs ↦ nofun
      rw [List.mapM_cons, bind_eq_error_iff]
      simp only [bind_eq_error_iff, hpure, and_false, exists_false, or_false, exists_and_right]
    rw [hcons]
    constructor
    · rintro (ha | ⟨hb, hl⟩)
      · exact ⟨[], a, l, rfl, List.forall_mem_nil _, ha⟩
      · obtain ⟨before, c, after, rfl, hbefore, hc⟩ := ih.1 hl
        exact ⟨a :: before, c, after, rfl, List.forall_mem_cons.2 ⟨hb, hbefore⟩, hc⟩
    · rintro ⟨- | ⟨b, before⟩, c, after, heq, hbefore, hc⟩
      · obtain ⟨rfl, rfl⟩ := List.cons.inj heq
        exact .inl hc
      · obtain ⟨rfl, rfl⟩ := List.cons.inj heq
        obtain ⟨hb, hbefore⟩ := List.forall_mem_cons.1 hbefore
        exact .inr ⟨hb, ih.2 ⟨before, c, after, rfl, hbefore, hc⟩⟩

/-- A failed traversal failed at some element. -/
theorem exists_of_mapM_eq_error {f : α → Except ε β} {l : List α} {e : ε}
    (h : l.mapM f = .error e) : ∃ a ∈ l, f a = .error e := by
  obtain ⟨before, a, after, rfl, -, ha⟩ := mapM_eq_error_iff.1 h
  exact ⟨a, List.mem_append_cons_self, ha⟩

/-- Steps that agree on the elements of a list make the same traversal of it. -/
theorem mapM_congr {f g : α → Except ε β} {l : List α} (h : ∀ a ∈ l, f a = g a) :
    l.mapM f = l.mapM g := by
  induction l with
  | nil => rfl
  | cons a l ih =>
    rw [List.mapM_cons, List.mapM_cons, h a List.mem_cons_self,
      ih fun a' ha' ↦ h a' (List.mem_cons_of_mem _ ha')]

/-- Steps that agree on the elements of two lists, one by one, make the same traversal of both. -/
theorem mapM_eq_of_forall₂ {γ : Type} {f : α → Except ε γ} {g : β → Except ε γ} {l : List α}
    {r : List β} (h : List.Forall₂ (fun a b ↦ f a = g b) l r) : l.mapM f = r.mapM g := by
  induction h with
  | nil => rfl
  | cons hab _ ih => rw [List.mapM_cons, List.mapM_cons, hab, ih]

/-- A traversal whose elements all succeed does so itself. -/
theorem exists_mapM_eq_ok {f : α → Except ε β} {l : List α} (h : ∀ a ∈ l, ∃ b, f a = .ok b) :
    ∃ r, l.mapM f = .ok r := by
  simp only [mapM_eq_ok_iff]
  exact exists_forall₂_iff.2 h

/-- A traversal has a value exactly if every element has. -/
theorem exists_mapM_eq_some {f : α → Option β} {l : List α} :
    (∃ r, l.mapM f = some r) ↔ ∀ a ∈ l, ∃ b, f a = some b := by
  induction l with
  | nil => simp
  | cons a l ih =>
    rw [List.forall_mem_cons, ← ih, List.mapM_cons]
    constructor
    · rintro ⟨r, h⟩
      obtain ⟨b, hb, h⟩ := Option.bind_eq_some_iff.1 h
      obtain ⟨bs, hbs, -⟩ := Option.bind_eq_some_iff.1 h
      exact ⟨⟨b, hb⟩, bs, hbs⟩
    · rintro ⟨⟨b, hb⟩, bs, hbs⟩
      exact ⟨b :: bs, by simp [hb, hbs]⟩

/-! ### Two computations side by side -/

/-- Both computations succeed, with related results, or both fail with the same error. -/
inductive SameOutcome (R : α → β → Prop) : Except ε α → Except ε β → Prop
  | ok {a : α} {b : β} (hab : R a b) : SameOutcome R (.ok a) (.ok b)
  | error (e : ε) : SameOutcome R (.error e) (.error e)

namespace SameOutcome

variable {γ δ : Type} {R : α → β → Prop} {x : Except ε α} {y : Except ε β}

theorem rel_of_ok (h : SameOutcome R x y) {a : α} {b : β} (hx : x = .ok a) (hy : y = .ok b) :
    R a b := by
  cases h with
  | ok hab =>
    cases hx
    cases hy
    exact hab
  | error => cases hx

/-- The relation may be replaced by one that the results have. -/
theorem imp {S : α → β → Prop} (h : SameOutcome R x y)
    (himp : ∀ a b, x = .ok a → y = .ok b → S a b) : SameOutcome S x y := by
  cases h with
  | ok => exact .ok (himp _ _ rfl rfl)
  | error e => exact .error e

theorem bind {S : γ → δ → Prop} {f : α → Except ε γ} {g : β → Except ε δ} (h : SameOutcome R x y)
    (hfg : ∀ a b, R a b → SameOutcome S (f a) (g b)) : SameOutcome S (x >>= f) (y >>= g) := by
  cases h with
  | ok hab => exact hfg _ _ hab
  | error e => exact .error e

theorem map {S : γ → δ → Prop} {f : α → γ} {g : β → δ} (h : SameOutcome R x y)
    (hfg : ∀ a b, R a b → S (f a) (g b)) : SameOutcome S (x.map f) (y.map g) := by
  cases h with
  | ok hab => exact .ok (hfg _ _ hab)
  | error e => exact .error e

end SameOutcome

/-! ### Traversals in two steps -/

/-- Two traversals, the second over what the first has found, succeed exactly when the traversal by
both steps at once does, and they find the same. -/
theorem exists_mapM_filterMap_iff {γ : Type} {f : α → Except ε (Option β)}
    {g : β → Except ε (Option γ)} {l : List α} {r : List γ} :
    (∃ bs cs, l.mapM f = .ok bs ∧ (bs.filterMap id).mapM g = .ok cs ∧ cs.filterMap id = r) ↔
      ∃ cs, l.mapM (fun a ↦ (f a).bind fun b? ↦ b?.elim (.ok none) g) = .ok cs ∧
        cs.filterMap id = r := by
  simp only [mapM_eq_ok_iff]
  induction l generalizing r with
  | nil => simp
  | cons a l ih =>
    constructor
    · rintro ⟨_, cs, hall, hcs, rfl⟩
      obtain ⟨b?, bs, hb, hbs, rfl⟩ := List.forall₂_cons_left_iff.1 hall
      rcases b? with - | b
      · obtain ⟨ds, hds, hd⟩ := ih.1 ⟨bs, cs, hbs, hcs, rfl⟩
        exact ⟨none :: ds, .cons (by rw [hb]; rfl) hds, hd⟩
      · obtain ⟨c?, cs, hc, hcs', rfl⟩ := List.forall₂_cons_left_iff.1 hcs
        obtain ⟨ds, hds, hd⟩ := ih.1 ⟨bs, cs, hbs, hcs', rfl⟩
        refine ⟨c? :: ds, .cons (by rw [hb]; exact hc) hds, ?_⟩
        rcases c? with - | c
        · exact hd
        · exact congrArg (c :: ·) hd
    · rintro ⟨_, hall, rfl⟩
      obtain ⟨c?, cs, hc, hcs, rfl⟩ := List.forall₂_cons_left_iff.1 hall
      obtain ⟨bs, ds, hbs, hds, hd⟩ := ih.2 ⟨cs, hcs, rfl⟩
      obtain ⟨b?, hb, hc⟩ := bind_eq_ok_iff.1 hc
      rcases b? with - | b
      · cases hc
        exact ⟨none :: bs, ds, .cons hb hbs, hds, hd⟩
      · refine ⟨some b :: bs, c? :: ds, .cons hb hbs, .cons hc hds, ?_⟩
        rcases c? with - | c
        · exact hd
        · exact congrArg (c :: ·) hd

/-- Checks over a list pass exactly when every element passes. -/
theorem forM_eq_ok_iff {f : α → Except ε Unit} {l : List α} {u : Unit} :
    l.forM f = .ok u ↔ ∀ a ∈ l, f a = .ok () := by
  induction l with
  | nil => simp
  | cons a l ih =>
    rw [show (a :: l).forM f = f a >>= fun _ ↦ l.forM f from rfl, bind_eq_ok_iff]
    simp only [List.forall_mem_cons]
    exact ⟨fun ⟨_, ha, h⟩ ↦ ⟨ha, ih.1 h⟩, fun ⟨ha, h⟩ ↦ ⟨(), ha, ih.2 h⟩⟩

end Recast
