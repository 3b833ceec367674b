import Mathlib.Logic.Function.Basic

/-! Sequence locks. A writer never takes the version back and changes content
only under a new or an odd version, so a copy that starts and ends at one even
version is the content that version stands for. -/

set_option autoImplicit false

namespace Chrysopolis.Support

/-- What a reader can load of a versioned store. -/
structure Versioned (ι β : Type) where
  version : Nat
  content : ι → β

namespace Versioned

variable {ι β : Type} {before middle after : Versioned ι β}

/-- A writer's step keeps the discipline. -/
structure Disciplined (before after : Versioned ι β) : Prop where
  forward : before.version ≤ after.version
  stable : before.version % 2 = 0 → after.version = before.version →
    after.content = before.content

theorem Disciplined.refl (store : Versioned ι β) : Disciplined store store :=
  ⟨Nat.le_refl _, fun _ _ => rfl⟩

/-- A step to a later version may change anything. -/
theorem Disciplined.of_lt (later : before.version < after.version) : Disciplined before after :=
  ⟨Nat.le_of_lt later, fun _ same => absurd same (Nat.ne_of_gt later)⟩

/-- So may a step under an odd version that keeps it. -/
theorem Disciplined.of_odd (odd : before.version % 2 = 1)
    (same : after.version = before.version) : Disciplined before after :=
  ⟨Nat.le_of_eq same.symm, fun even => by omega⟩

/-- What a copy begun at `version` may rely on. -/
structure Copying (store : Versioned ι β) (version : Nat) (copied : ι → Prop)
    (scratch : ι → β) : Prop where
  even : version % 2 = 0
  begun : version ≤ store.version
  faithful : store.version = version → ∀ index, copied index →
    scratch index = store.content index

theorem Copying.start (store : Versioned ι β) (even : store.version % 2 = 0)
    {copied : ι → Prop} (nothing : ∀ index, ¬ copied index) (scratch : ι → β) :
    Copying store store.version copied scratch :=
  ⟨even, Nat.le_refl _, fun _ index member => absurd member (nothing index)⟩

variable {store : Versioned ι β} {version : Nat} {copied : ι → Prop} {scratch : ι → β}

/-- Copying one more place. -/
theorem Copying.copy [DecidableEq ι] (copying : Copying store version copied scratch)
    (place : ι) {next : ι → Prop} (extends_ : ∀ index, next index → index = place ∨ copied index) :
    Copying store version next (Function.update scratch place (store.content place)) := by
  refine ⟨copying.even, copying.begun, fun same index member => ?_⟩
  by_cases here : index = place
  · subst here
    exact Function.update_self ..
  · rw [Function.update_of_ne here]
    exact copying.faithful same index ((extends_ index member).resolve_left here)

/-- A copy survives every step of a disciplined writer. -/
theorem Copying.step (copying : Copying before version copied scratch)
    (step : Disciplined before after) : Copying after version copied scratch := by
  refine ⟨copying.even, Nat.le_trans copying.begun step.forward, fun same index member => ?_⟩
  have unmoved : after.version = before.version := by
    have := copying.begun
    have := step.forward
    omega
  have even : before.version % 2 = 0 := by
    rw [← unmoved, same]
    exact copying.even
  rw [copying.faithful (unmoved ▸ same) index member, step.stable even unmoved]

end Versioned

end Chrysopolis.Support
