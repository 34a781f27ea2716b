import FleetToken.Error
import Mathlib.Data.List.Forall2

/-!
# Outcomes

Tokens are read step by step, and the first step that fails decides the outcome. A result of two
steps is taken apart into the results of each. What goes wrong with a token should be an error of
tokens, for callers catch nothing else.

## Main definitions

- `EqUnless`: the outcomes are the same but for one error.
- `Contained`: an outcome that callers are prepared for.

## Main results

- `bind_eq_ok_iff`, `bind_eq_error_iff`: the outcome of one step and then another;
- `mapError_eq_ok_iff`, `mapError_eq_error_iff`: the outcome of a step whose fault is reworded;
- `mapM_eq_ok_iff`: the outcome of one step for each item of a list.
-/

namespace FleetToken

section Steps

variable {ε ε' α β : Type}

/-- Two steps succeed if the first one does and the second one does with its result. -/
theorem bind_eq_ok_iff {x : Except ε α} {f : α → Except ε β} {b : β} :
    x >>= f = .ok b ↔ ∃ a, x = .ok a ∧ f a = .ok b := by
  cases x with
  | error e => simp [bind, Except.bind]
  | ok a => simp [bind, Except.bind]

/-- Two steps fail if the first one does, or the second one with the result of the first. -/
theorem bind_eq_error_iff {x : Except ε α} {f : α → Except ε β} {e : ε} :
    x >>= f = .error e ↔ x = .error e ∨ ∃ a, x = .ok a ∧ f a = .error e := by
  cases x with
  | error e => simp [bind, Except.bind]
  | ok a => simp [bind, Except.bind]

/-- Two steps that both avoid an error avoid it together. -/
theorem bind_ne_error {x : Except ε α} {f : α → Except ε β} {e : ε} (hx : x ≠ .error e)
    (hf : ∀ a, f a ≠ .error e) : x >>= f ≠ .error e := by
  intro h
  rcases bind_eq_error_iff.mp h with herror | ⟨a, -, herror⟩
  · exact hx herror
  · exact hf a herror

@[simp]
theorem ok_bind (a : α) (f : α → Except ε β) : (Except.ok a >>= f) = f a := rfl

@[simp]
theorem error_bind (e : ε) (f : α → Except ε β) : (Except.error e >>= f) = .error e := rfl

@[simp]
theorem throw_eq_error (e : ε) : (throw e : Except ε α) = .error e := rfl

@[simp]
theorem pure_eq_ok (a : α) : (pure a : Except ε α) = .ok a := rfl

@[simp]
theorem mapError_ok (f : ε → ε') (a : α) : (Except.ok a).mapError f = .ok a := rfl

@[simp]
theorem mapError_error (f : ε → ε') (e : ε) :
    (Except.error e : Except ε α).mapError f = .error (f e) := rfl

/-- A changed result is that of a step that succeeds. -/
theorem map_eq_ok_iff {x : Except ε α} {f : α → β} {b : β} :
    x.map f = .ok b ↔ ∃ a, x = .ok a ∧ f a = b := by
  cases x with
  | error e => simp [Except.map]
  | ok a => simp [Except.map]

/-- Changing the result leaves errors as they are. -/
theorem map_eq_error_iff {x : Except ε α} {f : α → β} {e : ε} :
    x.map f = .error e ↔ x = .error e := by
  cases x with
  | error fault => simp [Except.map]
  | ok a => simp [Except.map]

/-- Changing the error leaves results as they are. -/
theorem mapError_eq_ok_iff {x : Except ε α} {f : ε → ε'} {a : α} :
    x.mapError f = .ok a ↔ x = .ok a := by
  cases x with
  | error e => simp
  | ok b => simp

/-- A changed error is that of a step that fails. -/
theorem mapError_eq_error_iff {x : Except ε α} {f : ε → ε'} {e : ε'} :
    x.mapError f = .error e ↔ ∃ fault, x = .error fault ∧ f fault = e := by
  cases x with
  | error fault => simp
  | ok b => simp

/-- The steps for the items of a list all succeed if the results are those of the items. -/
theorem mapM_eq_ok_iff {f : α → Except ε β} {items : List α} {found : List β} :
    items.mapM f = .ok found ↔
      List.Forall₂ (fun item result => f item = .ok result) items found := by
  induction items generalizing found with
  | nil => simp [eq_comm]
  | cons item items ih =>
    simp only [List.mapM_cons, bind_eq_ok_iff, pure_eq_ok, Except.ok.injEq, ih,
      List.forall₂_cons_left_iff]
    constructor
    · rintro ⟨result, hresult, results, hresults, rfl⟩
      exact ⟨result, results, hresult, hresults, rfl⟩
    · rintro ⟨result, results, hresult, hresults, rfl⟩
      exact ⟨result, hresult, results, hresults, rfl⟩

section Members

variable {f : α → Except ε β} {items : List α} {found : List β} (h : items.mapM f = .ok found)
include h

/-- If the steps for the items of a list all succeed, each of them gives one of the results. -/
theorem exists_mem_of_mapM {item : α} (hitem : item ∈ items) :
    ∃ result ∈ found, f item = .ok result := by
  induction mapM_eq_ok_iff.mp h with
  | nil => contradiction
  | cons hfirst hrest ih =>
    rcases List.mem_cons.mp hitem with rfl | hmem
    · exact ⟨_, List.mem_cons_self, hfirst⟩
    · obtain ⟨other, hother, hresult⟩ := ih (mapM_eq_ok_iff.mpr hrest) hmem
      exact ⟨other, List.mem_cons_of_mem _ hother, hresult⟩

/-- Each of the results is that of one of the items. -/
theorem exists_item_of_mapM {result : β} (hresult : result ∈ found) :
    ∃ item ∈ items, f item = .ok result := by
  induction mapM_eq_ok_iff.mp h with
  | nil => contradiction
  | cons hfirst hrest ih =>
    rcases List.mem_cons.mp hresult with rfl | hmem
    · exact ⟨_, List.mem_cons_self, hfirst⟩
    · obtain ⟨other, hother, hstep⟩ := ih (mapM_eq_ok_iff.mpr hrest) hmem
      exact ⟨other, List.mem_cons_of_mem _ hother, hstep⟩

end Members

/-- Steps that agree on the items of a list have the same results. -/
theorem mapM_congr {f g : α → Except ε β} {items : List α}
    (h : ∀ item ∈ items, f item = g item) : items.mapM f = items.mapM g := by
  induction items with
  | nil => rfl
  | cons item items ih =>
    rw [List.mapM_cons, List.mapM_cons, h item List.mem_cons_self,
      ih fun other hother => h other (List.mem_cons_of_mem _ hother)]

/-- If each step succeeds for its item, all of them do. -/
theorem exists_mapM_eq_ok {f : α → Except ε β} {items : List α}
    (h : ∀ item ∈ items, ∃ result, f item = .ok result) : ∃ found, items.mapM f = .ok found := by
  induction items with
  | nil => exact ⟨[], rfl⟩
  | cons item items ih =>
    obtain ⟨result, hresult⟩ := h item List.mem_cons_self
    obtain ⟨results, hresults⟩ := ih fun other hother => h other (List.mem_cons_of_mem _ hother)
    exact ⟨result :: results, by rw [List.mapM_cons, hresult, hresults]; rfl⟩

/-- Steps with known results give the list of these. -/
theorem mapM_eq_ok_map {f : α → Except ε β} {g : α → β} {items : List α}
    (h : ∀ item ∈ items, f item = .ok (g item)) : items.mapM f = .ok (items.map g) := by
  rw [mapM_eq_ok_iff, List.forall₂_map_right_iff, List.forall₂_same]
  exact h

/-- Steps that succeed with known results only give the list of these. -/
theorem eq_map_of_mapM {f : α → Except ε β} {g : α → β} {items : List α} {found : List β}
    (h : items.mapM f = .ok found)
    (hg : ∀ item ∈ items, ∀ result, f item = .ok result → result = g item) :
    found = items.map g := by
  have hboth := (List.forall₂_and_left _ _).mpr ⟨hg, mapM_eq_ok_iff.mp h⟩
  have hresults : List.Forall₂ (fun item result => g item = result) items found :=
    hboth.imp fun item result hresult => (hresult.1 result hresult.2).symm
  rwa [← List.forall₂_map_left_iff (R := Eq), List.forall₂_eq_eq_eq, eq_comm] at hresults

/-! ## Outcomes that are the same but for one error -/

/-- The first outcome is the second one, unless it is one certain error. -/
def EqUnless (e : ε) (x y : Except ε α) : Prop :=
  x = .error e ∨ x = y

namespace EqUnless

variable {e : ε} {x y : Except ε α}

theorem refl (e : ε) (x : Except ε α) : EqUnless e x x := .inr rfl

/-- Any outcome but the error is that of the other side. -/
theorem eq (h : EqUnless e x y) (hx : x ≠ .error e) : x = y :=
  h.resolve_left hx

/-- Steps that are the same but for the error make sequences that are. -/
theorem bind {f g : α → Except ε β} (h : EqUnless e x y) (hf : ∀ a, EqUnless e (f a) (g a)) :
    EqUnless e (x >>= f) (y >>= g) := by
  rcases h with rfl | rfl
  · exact .inl rfl
  · cases x with
    | error other => exact refl e _
    | ok a => exact hf a

/-- A choice between steps that are the same but for the error is one. -/
theorem ite {p : Prop} [Decidable p] {x' y' : Except ε α} (hx : EqUnless e x x')
    (hy : EqUnless e y y') : EqUnless e (if p then x else y) (if p then x' else y') := by
  split
  · exact hx
  · exact hy

/-- Changing the results leaves outcomes the same but for the error. -/
theorem map (h : EqUnless e x y) (f : α → β) : EqUnless e (x.map f) (y.map f) := by
  rcases h with rfl | rfl
  · exact .inl rfl
  · exact refl e _

end EqUnless

end Steps

/-! ## Contained outcomes -/

/-- Whether a failure is an error of tokens. -/
def Failure.isTokenError : Failure → Bool
  | .token _ => true
  | _ => false

/-- An outcome that callers are prepared for: a result, or an error of tokens. -/
def Contained {α : Type} : Except Failure α → Prop
  | .ok _ => True
  | .error failure => failure.isTokenError = true

instance {α : Type} : (outcome : Except Failure α) → Decidable (Contained outcome)
  | .ok _ => isTrue trivial
  | .error failure => inferInstanceAs (Decidable (failure.isTokenError = true))

section Contained

variable {α β : Type}

@[simp]
theorem contained_ok (a : α) : Contained (.ok a) := trivial

/-- A failure is contained if it is an error of tokens. -/
@[simp]
theorem contained_error_iff {failure : Failure} :
    Contained (.error failure : Except Failure α) ↔ failure.isTokenError = true := Iff.rfl

/-- Errors that are turned into errors of tokens are contained. -/
theorem contained_mapError {ε : Type} (x : Except ε α) (f : ε → TokenError) :
    Contained (x.mapError fun error => .token (f error)) := by
  cases x with
  | ok a => trivial
  | error error => rfl

@[simp]
theorem contained_mapError_token (x : Except TokenError α) : Contained (x.mapError .token) :=
  contained_mapError x id

/-- Changing the result does not matter. -/
@[simp]
theorem contained_map_iff {x : Except Failure α} {f : α → β} :
    Contained (x.map f) ↔ Contained x := by
  cases x with
  | ok a => exact Iff.rfl
  | error failure => exact Iff.rfl

/-- Two steps are contained if each of them is, the second one with all results of the first. -/
theorem contained_bind_iff {x : Except Failure α} {f : α → Except Failure β} :
    Contained (x >>= f) ↔ Contained x ∧ ∀ a, x = .ok a → Contained (f a) := by
  cases x with
  | ok a => simp
  | error failure => simp

end Contained

end FleetToken
