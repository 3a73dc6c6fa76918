import RelStore.Error
import RelStore.Proofs.Result

/-!
# How computations fail

What every error of a computation has in common follows from what the errors of its parts have in
common, whichever property of errors that is (`FailsOnly`).

One such property is not to be internal.  An internal error says that a stage got what no statement
leads to.  A computation that never has one may still fail in all the other ways, so what is
composed of such computations never has one either.
-/

namespace RelStore

variable {α β : Type}

/-! ## Errors with a property -/

/-- Whatever error the computation ends in has the property. -/
def FailsOnly (E : Error → Prop) (x : Except Error α) : Prop :=
  ∀ e, x = .error e → E e

section FailsOnly

variable {E : Error → Prop}

theorem failsOnly_ok (a : α) : FailsOnly E (.ok a : Except Error α) := by
  intro e he
  contradiction

theorem failsOnly_error {e : Error} (h : E e) : FailsOnly E (.error e : Except Error α) := by
  rintro _ ⟨⟩
  exact h

/-- The error is handed on as it is. -/
theorem FailsOnly.of_eq_error {x : Except Error α} (hx : FailsOnly E x) {e : Error}
    (h : x = .error e) : FailsOnly E (.error e : Except Error β) :=
  failsOnly_error (hx e h)

/-- **What comes after a success may rely on it.** -/
theorem failsOnly_bind {x : Except Error α} {f : α → Except Error β} (hx : FailsOnly E x)
    (hf : ∀ a, x = .ok a → FailsOnly E (f a)) : FailsOnly E (x >>= f) := by
  cases x with
  | error e => exact hx.of_eq_error rfl
  | ok a => exact hf a rfl

theorem failsOnly_map {x : Except Error α} (f : α → β) (hx : FailsOnly E x) :
    FailsOnly E (x.map f) := by
  cases x with
  | error e => exact hx.of_eq_error rfl
  | ok a => exact failsOnly_ok _

theorem failsOnly_mapM {f : α → Except Error β} {l : List α} (h : ∀ a ∈ l, FailsOnly E (f a)) :
    FailsOnly E (l.mapM f) := by
  induction l with
  | nil => exact failsOnly_ok _
  | cons a l ih =>
      obtain ⟨ha, hl⟩ := List.forall_mem_cons.mp h
      rw [List.mapM_cons]
      refine failsOnly_bind ha fun b _ => failsOnly_bind (ih hl) fun bs _ => ?_
      exact failsOnly_ok _

theorem failsOnly_optionMapM {f : α → Except Error β} {a? : Option α}
    (h : ∀ a ∈ a?, FailsOnly E (f a)) : FailsOnly E (a?.mapM f) := by
  cases a? with
  | none => exact failsOnly_ok _
  | some a => exact failsOnly_map _ (h a rfl)

theorem failsOnly_forM {f : α → Except Error Unit} {l : List α} (h : ∀ a ∈ l, FailsOnly E (f a)) :
    FailsOnly E (l.forM f) := by
  induction l with
  | nil => exact failsOnly_ok _
  | cons a l ih =>
      obtain ⟨ha, hl⟩ := List.forall_mem_cons.mp h
      exact failsOnly_bind ha fun _ _ => ih hl

theorem failsOnly_foldlM {f : β → α → Except Error β} {l : List α}
    (h : ∀ b, ∀ a ∈ l, FailsOnly E (f b a)) (b : β) : FailsOnly E (l.foldlM f b) := by
  induction l generalizing b with
  | nil => exact failsOnly_ok _
  | cons a l ih =>
      rw [List.foldlM_cons]
      refine failsOnly_bind (h b a List.mem_cons_self) fun b' _ => ih ?_ b'
      exact fun b a ha => h b a (List.mem_cons_of_mem _ ha)

end FailsOnly

/-! ## Errors other than internal ones -/

/-- The computation does not end in an internal error. -/
def NeverInternal (x : Except Error α) : Prop :=
  ∀ cause, x ≠ .error (.internal cause)

theorem neverInternal_iff {x : Except Error α} :
    NeverInternal x ↔ FailsOnly (fun e => ∀ cause, e ≠ .internal cause) x :=
  ⟨fun h _ he cause heq => h cause (heq ▸ he), fun h cause he => h _ he cause rfl⟩

theorem neverInternal_ok (a : α) : NeverInternal (.ok a) := nofun

theorem neverInternal_error {e : Error} (h : ∀ cause, e ≠ .internal cause) :
    NeverInternal (.error e : Except Error α) :=
  neverInternal_iff.mpr (failsOnly_error h)

theorem NeverInternal.of_eq_error {x : Except Error α} (hx : NeverInternal x) {e : Error}
    (h : x = .error e) : NeverInternal (.error e : Except Error β) :=
  neverInternal_iff.mpr ((neverInternal_iff.mp hx).of_eq_error h)

theorem neverInternal_bind {x : Except Error α} {f : α → Except Error β} (hx : NeverInternal x)
    (hf : ∀ a, x = .ok a → NeverInternal (f a)) : NeverInternal (x >>= f) :=
  neverInternal_iff.mpr
    (failsOnly_bind (neverInternal_iff.mp hx) fun a ha => neverInternal_iff.mp (hf a ha))

theorem neverInternal_map {x : Except Error α} (f : α → β) (hx : NeverInternal x) :
    NeverInternal (x.map f) :=
  neverInternal_iff.mpr (failsOnly_map f (neverInternal_iff.mp hx))

theorem neverInternal_mapM {f : α → Except Error β} {l : List α}
    (h : ∀ a ∈ l, NeverInternal (f a)) : NeverInternal (l.mapM f) :=
  neverInternal_iff.mpr (failsOnly_mapM fun a ha => neverInternal_iff.mp (h a ha))

theorem neverInternal_optionMapM {f : α → Except Error β} {a? : Option α}
    (h : ∀ a ∈ a?, NeverInternal (f a)) : NeverInternal (a?.mapM f) :=
  neverInternal_iff.mpr (failsOnly_optionMapM fun a ha => neverInternal_iff.mp (h a ha))

theorem neverInternal_forM {f : α → Except Error Unit} {l : List α}
    (h : ∀ a ∈ l, NeverInternal (f a)) : NeverInternal (l.forM f) :=
  neverInternal_iff.mpr (failsOnly_forM fun a ha => neverInternal_iff.mp (h a ha))

theorem neverInternal_foldlM {f : β → α → Except Error β} {l : List α}
    (h : ∀ b, ∀ a ∈ l, NeverInternal (f b a)) (b : β) : NeverInternal (l.foldlM f b) :=
  neverInternal_iff.mpr
    (failsOnly_foldlM (fun b a ha => neverInternal_iff.mp (h b a ha)) b)

end RelStore
